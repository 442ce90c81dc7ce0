import TrackSieve.Filter.Bounds
import TrackSieve.Filter.Diagnostic
import TrackSieve.Filter.Run
import TrackSieve.Filter.Scan
import TrackSieve.Filter.Record
import TrackSieve.Track.Library
import TrackSieve.Track.Record
import TrackSieve.Ceilings.Load
import TrackSieve.Ceilings.Record
import TrackSieve.Log.Writer
import TrackSieve.Session
import TrackSieve.Proofs.Filter.CeilingVerdict
import TrackSieve.Proofs.Filter.UpperSwitch
import TrackSieve.Proofs.Decimal.Rounding
import TrackSieve.Proofs.Decimal.Layout
import TrackSieve.Proofs.Json.Literal
import TrackSieve.Proofs.Json.Token
import TrackSieve.Proofs.Json.Document
import TrackSieve.Proofs.Json.Number
import TrackSieve.Proofs.Json.Record
import TrackSieve.Proofs.Range.Stored
import TrackSieve.Proofs.Range.Same
import TrackSieve.Proofs.Filter.Restored
import TrackSieve.Proofs.Session.Notified
import TrackSieve.Proofs.Filter.SliderVerdict
import TrackSieve.Proofs.Filter.Widening
import TrackSieve.Proofs.Filter.Units
import TrackSieve.Proofs.Ceilings.Load
import TrackSieve.Proofs.Ceilings.Settled
import TrackSieve.Proofs.Track.Stored
import TrackSieve.Proofs.Filter.StoredTrack
import TrackSieve.Proofs.Ceilings.Stored
import TrackSieve.Proofs.Binary64.Least
import TrackSieve.Proofs.Filter.RestoreNotified
import TrackSieve.Proofs.Range.Capped
import TrackSieve.Proofs.Filter.CeilingHistory
import TrackSieve.Proofs.Filter.OpenSelection
import TrackSieve.Proofs.Binary64.Monotone
import TrackSieve.Proofs.Filter.RawInterval
import TrackSieve.Proofs.Filter.ScanOrder
import TrackSieve.Proofs.Decimal.Reader
import TrackSieve.Proofs.Ceilings.Written
import TrackSieve.Proofs.Json.Form
import TrackSieve.Proofs.Json.StoredForms
import TrackSieve.Proofs.Filter.OwnQuantity
import TrackSieve.Proofs.Text.Blank
import TrackSieve.Proofs.Measure.Setting
import TrackSieve.Proofs.Names
import TrackSieve.Proofs.Log.Listed
import TrackSieve.Proofs.Log.OwnDirective
import TrackSieve.Proofs.Session.Logged
import TrackSieve.Proofs.Range.Diagnosis
