import PricePublisher.Broker.AssetFilter
import PricePublisher.Broker.Lifecycle
import PricePublisher.Broker.Manager
import PricePublisher.Broker.Table
import PricePublisher.Broker.Writer
import PricePublisher.Broker.WriterSession
import PricePublisher.Bytes.Basic
import PricePublisher.Bytes.Hex
import PricePublisher.Connection.Dial
import PricePublisher.Connection.Handle
import PricePublisher.Connection.Message
import PricePublisher.Connection.Read
import PricePublisher.Connection.Write
import PricePublisher.Curve.Ecdsa
import PricePublisher.Curve.Secp256k1
import PricePublisher.Decimal.Basic
import PricePublisher.Decimal.Digits
import PricePublisher.Decimal.Printer
import PricePublisher.Decimal.Reader
import PricePublisher.Decimal.ToFloat
import PricePublisher.Feed.FanIn
import PricePublisher.Feed.Message
import PricePublisher.Feed.Puller
import PricePublisher.Feed.Reader
import PricePublisher.Feed.ReaderSession
import PricePublisher.Floating.Reader
import PricePublisher.Floating.Shortest
import PricePublisher.Floating.Text
import PricePublisher.Floating.Whole
import PricePublisher.Hash.Keccak
import PricePublisher.Hash.Sha256
import PricePublisher.Http.Exchange
import PricePublisher.Http.Health
import PricePublisher.Json.Access
import PricePublisher.Json.Decoder
import PricePublisher.Json.Document
import PricePublisher.Json.Printer
import PricePublisher.Json.Reader
import PricePublisher.Json.Token
import PricePublisher.Json.Value
import PricePublisher.Keyed
import PricePublisher.Main
import PricePublisher.Notice
import PricePublisher.Price.Quantized
import PricePublisher.Price.Signed
import PricePublisher.Price.Update
import PricePublisher.Price.ValueError
import PricePublisher.Proofs.Broker.Broadcast
import PricePublisher.Proofs.Broker.FanOut
import PricePublisher.Proofs.Broker.Listing
import PricePublisher.Proofs.Broker.LiveEntries
import PricePublisher.Proofs.Broker.ManagerHistory
import PricePublisher.Proofs.Broker.Ownership
import PricePublisher.Proofs.Broker.Reconciliation
import PricePublisher.Proofs.Broker.Sockets
import PricePublisher.Proofs.Broker.StaleLifecycles
import PricePublisher.Proofs.Broker.TableHistory
import PricePublisher.Proofs.Broker.TableRuns
import PricePublisher.Proofs.Broker.Turns
import PricePublisher.Proofs.Broker.WriterDelivery
import PricePublisher.Proofs.Broker.WriterHistory
import PricePublisher.Proofs.Broker.WriterProgress
import PricePublisher.Proofs.Bytes.Basic
import PricePublisher.Proofs.Bytes.Hex
import PricePublisher.Proofs.Connection.Cleanup
import PricePublisher.Proofs.Connection.Reading
import PricePublisher.Proofs.Decimal.Digits
import PricePublisher.Proofs.Decimal.Reading
import PricePublisher.Proofs.Decimal.ToFloat
import PricePublisher.Proofs.Feed.Interleaving
import PricePublisher.Proofs.Feed.Offers
import PricePublisher.Proofs.Feed.Pulling
import PricePublisher.Proofs.Feed.Serving
import PricePublisher.Proofs.Floating.Denotation
import PricePublisher.Proofs.Floating.Layout
import PricePublisher.Proofs.Floating.Shortest
import PricePublisher.Proofs.Floating.Sign
import PricePublisher.Proofs.Floating.Size
import PricePublisher.Proofs.Json.Documents
import PricePublisher.Proofs.Json.Numerals
import PricePublisher.Proofs.Json.Texts
import PricePublisher.Proofs.Json.Written
import PricePublisher.Proofs.Keyed
import PricePublisher.Proofs.Outcome
import PricePublisher.Proofs.Positions
import PricePublisher.Proofs.Price.Order
import PricePublisher.Proofs.Price.Quantized
import PricePublisher.Proofs.Price.Signed
import PricePublisher.Proofs.Publishing.BatchContents
import PricePublisher.Proofs.Publishing.DeltaBaseline
import PricePublisher.Proofs.Publishing.JobConservation
import PricePublisher.Proofs.Publishing.LineEnd
import PricePublisher.Proofs.Publishing.LineHistory
import PricePublisher.Proofs.Publishing.OrderedShutdown
import PricePublisher.Proofs.Publishing.PipelineHistory
import PricePublisher.Proofs.Publishing.Quiescence
import PricePublisher.Proofs.Queue
import PricePublisher.Proofs.Registry.Merging
import PricePublisher.Proofs.Registry.Replies
import PricePublisher.Proofs.Settings.Acceptance
import PricePublisher.Proofs.Settings.KeysInForce
import PricePublisher.Proofs.Settings.Redaction
import PricePublisher.Proofs.Settings.Threshold
import PricePublisher.Proofs.Signing.Address
import PricePublisher.Proofs.Signing.KeyText
import PricePublisher.Proofs.Signing.PriceWord
import PricePublisher.Proofs.Signing.PublishedPrice
import PricePublisher.Proofs.Signing.SignedRange
import PricePublisher.Proofs.Signing.Unambiguity
import PricePublisher.Proofs.Signing.Verification
import PricePublisher.Proofs.Startup.KeyPair
import PricePublisher.Proofs.Text.Trimming
import PricePublisher.Proofs.Throttle
import PricePublisher.Proofs.Wire.Feed
import PricePublisher.Proofs.Wire.Records
import PricePublisher.Proofs.Wire.RoundTrips
import PricePublisher.Proofs.Wire.SignedUpdate
import PricePublisher.Publisher.Description
import PricePublisher.Publisher.Reporter
import PricePublisher.Publishing.Pipeline
import PricePublisher.Publishing.Processor
import PricePublisher.Publishing.SigningLine
import PricePublisher.Publishing.Threshold
import PricePublisher.Publishing.TriggerEngine
import PricePublisher.Publishing.Workers
import PricePublisher.Queue
import PricePublisher.Registry.Client
import PricePublisher.Registry.Response
import PricePublisher.Settings.File
import PricePublisher.Settings.HexKey
import PricePublisher.Settings.Keys
import PricePublisher.Settings.Resolve
import PricePublisher.Settings.Scalar
import PricePublisher.Signing.Address
import PricePublisher.Signing.Error
import PricePublisher.Signing.EvmSigner
import PricePublisher.Signing.Payload
import PricePublisher.Signing.PriceWord
import PricePublisher.Signing.Signature
import PricePublisher.Signing.Signer
import PricePublisher.Startup.Arguments
import PricePublisher.Startup.LocalRun
import PricePublisher.Startup.Plan
import PricePublisher.Text.Blank
import PricePublisher.Text.Hidden
import PricePublisher.Text.Quoted
import PricePublisher.Text.Split
import PricePublisher.Throttle
import PricePublisher.Time.Duration
import PricePublisher.Time.DurationReader
import PricePublisher.Url.Basic
import PricePublisher.Url.Host
import PricePublisher.Url.Percent
import PricePublisher.Url.Punycode
import PricePublisher.Wire.Envelope
import PricePublisher.Wire.Feed
import PricePublisher.Wire.SignedUpdate
import PricePublisher.Yaml.BlockScalar
import PricePublisher.Yaml.Character
import PricePublisher.Yaml.Document
import PricePublisher.Yaml.Layout
import PricePublisher.Yaml.Lexeme
import PricePublisher.Yaml.Node
import PricePublisher.Yaml.Scalar
import PricePublisher.Yaml.Token
