import Componentry.Channel
import Componentry.Codec
import Componentry.ConfigurableProperty
import Componentry.Descriptor.Callback
import Componentry.Descriptor.Component
import Componentry.Descriptor.Element
import Componentry.Descriptor.Property
import Componentry.Descriptor.Service
import Componentry.Dictionary
import Componentry.Endpoint
import Componentry.Engine.Attaching
import Componentry.Engine.Calling
import Componentry.Engine.Configuring
import Componentry.Engine.Handling
import Componentry.Engine.Living
import Componentry.Engine.Platform
import Componentry.Engine.Providing
import Componentry.Engine.Registering
import Componentry.Engine.Run
import Componentry.Engine.Updating
import Componentry.Event
import Componentry.Failure
import Componentry.Json.Number
import Componentry.Json.Reader
import Componentry.Json.Record
import Componentry.Json.Syntax
import Componentry.Json.Token
import Componentry.Json.Writer
import Componentry.Log
import Componentry.Log.Console
import Componentry.Method
import Componentry.Number.Decimal
import Componentry.Number.Double
import Componentry.Number.Numeral
import Componentry.Number.Scaling
import Componentry.Number.Shortest
import Componentry.Proofs.Callback.Changes
import Componentry.Proofs.Callback.Enduring
import Componentry.Proofs.Callback.Firing
import Componentry.Proofs.Callback.Tracking
import Componentry.Proofs.Component.Dispatch
import Componentry.Proofs.Component.Interception
import Componentry.Proofs.Endpoint.Events
import Componentry.Proofs.Endpoint.Publishing
import Componentry.Proofs.Ensemble.Admission
import Componentry.Proofs.Ensemble.Assembly
import Componentry.Proofs.Ensemble.Basic
import Componentry.Proofs.Ensemble.Staffing
import Componentry.Proofs.Field.Binding
import Componentry.Proofs.Field.Reaching
import Componentry.Proofs.Field.Writing
import Componentry.Proofs.Handler.Order
import Componentry.Proofs.Handler.Seclusion
import Componentry.Proofs.Handler.Sides
import Componentry.Proofs.Json.Recovery
import Componentry.Proofs.Json.Scanning
import Componentry.Proofs.Json.Transcription
import Componentry.Proofs.Property.Outset
import Componentry.Proofs.Property.Receiving
import Componentry.Proofs.Property.Sparing
import Componentry.Proofs.Property.Surface
import Componentry.Proofs.Registration.Correspondence
import Componentry.Proofs.Registration.Diary
import Componentry.Proofs.Registration.Exposure
import Componentry.Proofs.Registration.Following
import Componentry.Proofs.Registration.Frame
import Componentry.Proofs.Registration.Indifference
import Componentry.Proofs.Registration.Masking
import Componentry.Proofs.Registration.Stranding
import Componentry.Proofs.Registry.Ledger
import Componentry.Proofs.Registry.Memory
import Componentry.Proofs.Run.Outcome
import Componentry.Proofs.Run.Pairing
import Componentry.Proofs.Run.Returning
import Componentry.Proofs.Run.Turn
import Componentry.Proofs.Service.Acceptance
import Componentry.Proofs.Service.Convergence
import Componentry.Proofs.Service.Displacement
import Componentry.Proofs.Service.Frame
import Componentry.Proofs.Service.Offer
import Componentry.Proofs.Service.Portrait
import Componentry.Proofs.Service.Pushing
import Componentry.Proofs.Service.Sending
import Componentry.Proofs.Settings.Loading
import Componentry.Proofs.Text.Trimming
import Componentry.Proofs.Update.Delivery
import Componentry.Proofs.Update.Overlap
import Componentry.Proofs.Update.Propagation
import Componentry.Proofs.Update.Replacement
import Componentry.Proofs.Value.Restoring
import Componentry.Proofs.Value.Spelling
import Componentry.Registry
import Componentry.Scenario.Action
import Componentry.Scenario.Answer
import Componentry.Scenario.Casting
import Componentry.Scenario.Collaborating
import Componentry.Scenario.Description
import Componentry.Scenario.Performance
import Componentry.Scenario.Performing
import Componentry.Scenario.Stage
import Componentry.Scenario.Standalone
import Componentry.Service
import Componentry.Settings
import Componentry.Settings.Place
import Componentry.Settings.Sources
import Componentry.Store
import Componentry.Surface
import Componentry.Switchboard
import Componentry.Text.Blank
import Componentry.Text.Printable
import Componentry.Text.Quoted
import Componentry.Text.Unassigned
import Componentry.Validity
import Componentry.Value
import Componentry.Value.Convert
import Componentry.Value.Render
