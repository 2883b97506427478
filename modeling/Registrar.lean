import Registrar.Calendar.Assessment
import Registrar.Calendar.Date
import Registrar.Calendar.Numeric
import Registrar.Calendar.Period
import Registrar.Command.Entry
import Registrar.Command.Invocation
import Registrar.Command.Report
import Registrar.Command.Run
import Registrar.Command.Switch
import Registrar.Configuration
import Registrar.Credential
import Registrar.Decimal.Double
import Registrar.Decimal.Shortest
import Registrar.Decision
import Registrar.Directory
import Registrar.FileContent
import Registrar.Form.Basic
import Registrar.Form.Case
import Registrar.Form.Configuration
import Registrar.Form.Tables
import Registrar.Json.Basic
import Registrar.Json.Markup
import Registrar.Json.Reader
import Registrar.Json.Token
import Registrar.Json.Writer
import Registrar.Main
import Registrar.Markup
import Registrar.Modality
import Registrar.Pipeline
import Registrar.Policy.Amendment
import Registrar.Policy.Builtin
import Registrar.Policy.Change
import Registrar.Policy.Loading
import Registrar.Policy.Overlay
import Registrar.Policy.Setting
import Registrar.Policy.Tables
import Registrar.Proofs.Access
import Registrar.Proofs.Authoring
import Registrar.Proofs.Consult
import Registrar.Proofs.Enrollment
import Registrar.Proofs.Facts
import Registrar.Proofs.Judging
import Registrar.Proofs.Lifecycle
import Registrar.Proofs.Outage
import Registrar.Proofs.Ownership
import Registrar.Proofs.Requirement
import Registrar.Records
import Registrar.Rejection
import Registrar.Request
import Registrar.Role
import Registrar.Roster
import Registrar.Service
import Registrar.Stage.Access
import Registrar.Stage.Authoring
import Registrar.Stage.Basic
import Registrar.Stage.Enrollment
import Registrar.Stage.Identity
import Registrar.Stage.Listing
import Registrar.Subject
import Registrar.Table
import Registrar.Text.Basic
import Registrar.Text.CaseTable
import Registrar.Text.Lowercase
import Registrar.Text.Numeral
import Registrar.Text.Quoted
import Registrar.Yaml.Cursor
import Registrar.Yaml.Markup
import Registrar.Yaml.Node
import Registrar.Yaml.Scalar
import Registrar.Yaml.Token
import Registrar.Proofs.OpenPeriod
import Registrar.Proofs.Questions
import Registrar.Proofs.Indifference
import Registrar.Proofs.Wording
import Registrar.Proofs.Loosening
import Registrar.Proofs.Entries
import Registrar.Proofs.Layers
import Registrar.Proofs.NormalForm
import Registrar.Proofs.Upkeep
import Registrar.Proofs.Enumeration
import Registrar.Proofs.Walk
import Registrar.Proofs.Seats
import Registrar.Proofs.Timeline
import Registrar.Proofs.Listing
import Registrar.Proofs.Passage
import Registrar.Proofs.Frame
import Registrar.Proofs.PeriodText
import Registrar.Proofs.PeriodLabel
import Registrar.Proofs.Bearer
import Registrar.Proofs.CourseNumber
import Registrar.Proofs.Amending
import Registrar.Proofs.SettingNumber
import Registrar.Proofs.SeatSetting
import Registrar.Proofs.DirectoryFile
import Registrar.Proofs.Reported
import Registrar.Proofs.Replay
import Registrar.Proofs.ModalityKey
import Registrar.Proofs.WholeNumber
import Registrar.Proofs.Enacting
import Registrar.Proofs.SeatNumeral
import Registrar.Proofs.JsonText
import Registrar.Proofs.JsonForm
import Registrar.Proofs.Forms
