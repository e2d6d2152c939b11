import SphereCloud.App
import SphereCloud.Numbers
import SphereCloud.Cloud.Layout
import SphereCloud.Cloud.Production
import SphereCloud.Cloud.Receiver
import SphereCloud.Decimal.Shortest
import SphereCloud.Generator.Sequences
import SphereCloud.Generator.KeyStream
import SphereCloud.Generator.Uniform
import SphereCloud.Geometry
import SphereCloud.Log
import SphereCloud.Main
import SphereCloud.Proofs.Cloud.Delivery
import SphereCloud.Proofs.Basic
import SphereCloud.Proofs.Cloud.Draws
import SphereCloud.Proofs.Cloud.Labels
import SphereCloud.RecordText.Token
import SphereCloud.RecordText.Fault
import SphereCloud.RecordText.Header
import SphereCloud.RecordText.Integer
import SphereCloud.RecordText.Literal
import SphereCloud.RecordText.Number
import SphereCloud.RecordText.Value
import SphereCloud.Settings.Basic
import SphereCloud.Settings.File
import SphereCloud.Settings.Reader
import SphereCloud.Sphere
import SphereCloud.Text.WordChar
import SphereCloud.Text.Quoted
import SphereCloud.View.Camera
import SphereCloud.View.Cell
import SphereCloud.View.Picture
import SphereCloud.View.Session
import SphereCloud.View.Viewer
import SphereCloud.Proofs.Cloud.Grid
import SphereCloud.Proofs.Cloud.Views
import SphereCloud.Proofs.View.Cells
import SphereCloud.Proofs.View.Drawing
import SphereCloud.Proofs.View.Frames
import SphereCloud.Proofs.Cloud.Independence
import SphereCloud.Proofs.View.Keeping
import SphereCloud.Proofs.View.Rerun
import SphereCloud.Proofs.View.Ordering
import SphereCloud.Proofs.View.Loop
import SphereCloud.Proofs.Cloud.Stratification
import SphereCloud.Proofs.RecordText.Tokens
import SphereCloud.Proofs.RecordText.Entries
import SphereCloud.Proofs.Settings.Fields
import SphereCloud.Proofs.Settings.Records
import SphereCloud.Proofs.Settings.RoundTrip
import SphereCloud.Proofs.Settings.Settling
import SphereCloud.Proofs.Generator.Cycle
import SphereCloud.Proofs.Binary.Order
import SphereCloud.Proofs.Binary.BinaryScalar
import SphereCloud.Proofs.Cloud.Success
import SphereCloud.Proofs.Generator.RoundedRange
import SphereCloud.Proofs.View.Motion
import SphereCloud.Proofs.View.Heading
import SphereCloud.Proofs.Generator.Accounting
import SphereCloud.Proofs.Generator.Expansion
import SphereCloud.Proofs.Generator.Strata
import SphereCloud.Proofs.Cloud.Prefixes
import SphereCloud.Proofs.Sphere.Points
import SphereCloud.Proofs.Binary.Monotone
import SphereCloud.Proofs.Binary.RelativeError
import SphereCloud.Proofs.Generator.Halving
import SphereCloud.Proofs.Generator.DigitOrder
import SphereCloud.Proofs.Generator.RoundedInverse
import SphereCloud.Proofs.Generator.UnitInterval
import SphereCloud.Proofs.Binary.WordOrder
import SphereCloud.Proofs.Generator.HalfOpen
import SphereCloud.Proofs.Generator.ExactFractions
import SphereCloud.Proofs.Sphere.UnitSamples
import SphereCloud.Proofs.View.Culling
import SphereCloud.Proofs.Exact.Reals
import SphereCloud.Proofs.View.Timing
import SphereCloud.Proofs.View.Strokes
import SphereCloud.Proofs.Exact.Vectors
import SphereCloud.Proofs.View.Pose
import SphereCloud.Proofs.Exact.Spreads
import SphereCloud.Proofs.Sphere.UnitLength
import SphereCloud.Proofs.View.Tiling
import SphereCloud.Proofs.Cloud.LeastPlace
import SphereCloud.Proofs.Binary.NearestByte
import SphereCloud.Proofs.View.Brightness
