import Triage.Accept
import Triage.Accept.Header
import Triage.Access.Authenticator
import Triage.Access.Policy
import Triage.Access.SchemeSet
import Triage.Cache.Chronicle
import Triage.Cache.Clients
import Triage.Cache.Duration
import Triage.Cache.Run
import Triage.Cache.Service
import Triage.Cache.Settings
import Triage.Cache.Store
import Triage.Classify
import Triage.Error
import Triage.Error.Class
import Triage.Error.Make
import Triage.Error.Text
import Triage.Event
import Triage.Exchange
import Triage.Exchange.Edit
import Triage.FailureItem
import Triage.Guard
import Triage.Handler
import Triage.Handler.ErrorHeaders
import Triage.Handler.Office
import Triage.Handler.Run
import Triage.Http.Headers
import Triage.Http.Response
import Triage.Http.Status
import Triage.Issue
import Triage.Json.Reader
import Triage.Json.Writer
import Triage.Kind
import Triage.Log.Record
import Triage.Log.Setup
import Triage.Log.Template
import Triage.Log.Timestamp
import Triage.Log.Traceback
import Triage.Memo
import Triage.Memo.Run
import Triage.Number.Binary64
import Triage.Number.Decimal
import Triage.Number.Places
import Triage.Number.Power
import Triage.Number.Reading
import Triage.Number.Rounding
import Triage.Number.Shortest
import Triage.Number.Text
import Triage.Obstacle
import Triage.Problem
import Triage.Problem.Defaults
import Triage.Proofs.Accounting
import Triage.Proofs.Agreement
import Triage.Proofs.Answering
import Triage.Proofs.Challenging
import Triage.Proofs.Concealment
import Triage.Proofs.Conflicts
import Triage.Proofs.Declining
import Triage.Proofs.Digits
import Triage.Proofs.Disconnecting
import Triage.Proofs.Drafting
import Triage.Proofs.Encodable
import Triage.Proofs.Entries
import Triage.Proofs.EscapedTexts
import Triage.Proofs.Faithful
import Triage.Proofs.Fields
import Triage.Proofs.FillingIn
import Triage.Proofs.Framing
import Triage.Proofs.Guarding
import Triage.Proofs.Handling
import Triage.Proofs.Handshake
import Triage.Proofs.HeaderMerging
import Triage.Proofs.HeaderNames
import Triage.Proofs.Influence
import Triage.Proofs.Interleaving
import Triage.Proofs.Isolation
import Triage.Proofs.Latin
import Triage.Proofs.Layers
import Triage.Proofs.Lifetimes
import Triage.Proofs.LiveEntries
import Triage.Proofs.LogLines
import Triage.Proofs.Manners
import Triage.Proofs.MediaRanges
import Triage.Proofs.NearestNumbers
import Triage.Proofs.Negotiating
import Triage.Proofs.NormalForms
import Triage.Proofs.NumberTexts
import Triage.Proofs.Obstacles
import Triage.Proofs.OwnFields
import Triage.Proofs.Parameters
import Triage.Proofs.Passing
import Triage.Proofs.Pieces
import Triage.Proofs.PlainIds
import Triage.Proofs.PoliciesInEffect
import Triage.Proofs.Presentable
import Triage.Proofs.ReadBack
import Triage.Proofs.Remembering
import Triage.Proofs.Representation
import Triage.Proofs.RequestIds
import Triage.Proofs.Returning
import Triage.Proofs.Schemes
import Triage.Proofs.ShortestDigits
import Triage.Proofs.SmallLetters
import Triage.Proofs.Succeeding
import Triage.Proofs.TagEviction
import Triage.Proofs.Timing
import Triage.Proofs.WireFormat
import Triage.Proofs.Wording
import Triage.Reading
import Triage.RequestId
import Triage.Responder
import Triage.Result
import Triage.Settings
import Triage.Text.Blank
import Triage.Text.CaseTable
import Triage.Text.Cut
import Triage.Text.Lowercase
import Triage.Text.Printable
import Triage.Text.Quoted
import Triage.Text.Ranges
import Triage.Text.Glyph
import Triage.Text.Unfit
import Triage.Text.Wide
import Triage.Trouble
import Triage.Value
import Triage.Value.Part
import Triage.Value.Same
import Triage.Value.Shown
import Triage.Web.Application
import Triage.Web.Body
import Triage.Web.Endpoint
import Triage.Web.Fallback
import Triage.Web.Input
import Triage.Web.Message
import Triage.Web.Template
