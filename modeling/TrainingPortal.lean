import TrainingPortal.Main
import TrainingPortal.Portal.Conversation
import TrainingPortal.Proofs.Stateful
import TrainingPortal.Proofs.Exchange
import TrainingPortal.Proofs.Landmarks
import TrainingPortal.Proofs.Operations
import TrainingPortal.Proofs.Broker
import TrainingPortal.Proofs.Discipline
import TrainingPortal.Proofs.Conversation
import TrainingPortal.Proofs.Lives
import TrainingPortal.Proofs.Gate
import TrainingPortal.Proofs.Encoding
import TrainingPortal.Proofs.Pieces
import TrainingPortal.Proofs.Address
import TrainingPortal.Proofs.Segment
import TrainingPortal.Proofs.Endpoints
import TrainingPortal.Proofs.Requests
import TrainingPortal.Proofs.Destination
import TrainingPortal.Proofs.Outcomes
import TrainingPortal.Proofs.Toml.Quotes
import TrainingPortal.Proofs.Toml.Texts
import TrainingPortal.Proofs.Digits
import TrainingPortal.Proofs.Toml.Numbers
import TrainingPortal.Proofs.Toml.Values
import TrainingPortal.Proofs.Toml.Lines
import TrainingPortal.Proofs.Toml.Range
import TrainingPortal.Proofs.Toml.Tables
import TrainingPortal.Proofs.Profiles.Document
import TrainingPortal.Proofs.Files
import TrainingPortal.Proofs.Directories
import TrainingPortal.Proofs.Growth
import TrainingPortal.Proofs.Parents
import TrainingPortal.Proofs.Profiles.Store
import TrainingPortal.Proofs.Profiles.Operations
import TrainingPortal.Proofs.Profiles.Failures
import TrainingPortal.Proofs.Profiles.Registry
import TrainingPortal.Proofs.Profiles.Promotion
import TrainingPortal.Proofs.Profiles.Launches
import TrainingPortal.Proofs.Parameters
import TrainingPortal.Proofs.Dotenv
import TrainingPortal.Proofs.Dotenv.References
import TrainingPortal.Proofs.Credentials
import TrainingPortal.Proofs.Dotenv.Quoted
import TrainingPortal.Proofs.Selection
import TrainingPortal.Proofs.Assembly
import TrainingPortal.Proofs.Form
import TrainingPortal.Proofs.Json.Tokens
import TrainingPortal.Proofs.Json.Spelling
import TrainingPortal.Proofs.Json
import TrainingPortal.Proofs.Session
import TrainingPortal.Proofs.Base64
import TrainingPortal.Proofs.Handover
import TrainingPortal.Proofs.Revocation
import TrainingPortal.Proofs.Likeness
import TrainingPortal.Proofs.Secrecy
import TrainingPortal.Proofs.Logs
import TrainingPortal.Proofs.Records
import TrainingPortal.Proofs.Canonical
import TrainingPortal.Proofs.Shapes
import TrainingPortal.Proofs.Replies
import TrainingPortal.Proofs.Commands.Stages
import TrainingPortal.Proofs.Commands.Course
import TrainingPortal.Proofs.Commands.Documents
import TrainingPortal.Proofs.Commands.Announcement
import TrainingPortal.Proofs.CommandLine.Frames
import TrainingPortal.Proofs.CommandLine.Origins
import TrainingPortal.Proofs.Dotenv.Excerpts
import TrainingPortal.Proofs.Messages.Quotations
import TrainingPortal.Proofs.Messages.Parameters
import TrainingPortal.Proofs.Messages.Portal
import TrainingPortal.Proofs.Messages
