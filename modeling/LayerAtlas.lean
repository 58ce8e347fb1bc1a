import LayerAtlas.Ascending
import LayerAtlas.BoundingBox
import LayerAtlas.Build
import LayerAtlas.Catalog
import LayerAtlas.CommandLine
import LayerAtlas.Crs
import LayerAtlas.Definition
import LayerAtlas.Elevation
import LayerAtlas.Environment
import LayerAtlas.Files.Disk
import LayerAtlas.Files.Entry
import LayerAtlas.Files.Memory
import LayerAtlas.Grants
import LayerAtlas.Inventory
import LayerAtlas.Json.Document
import LayerAtlas.Json.Printer
import LayerAtlas.Json.Reading
import LayerAtlas.Json.Value
import LayerAtlas.Layer
import LayerAtlas.Main
import LayerAtlas.Pattern.Expression
import LayerAtlas.Pattern.Footprint
import LayerAtlas.Pattern.Meaning
import LayerAtlas.Pattern.NamedSet
import LayerAtlas.Pattern.Phrase
import LayerAtlas.Pattern.Reader
import LayerAtlas.Program
import LayerAtlas.Proofs.Axes
import LayerAtlas.Proofs.BuiltLayers
import LayerAtlas.Proofs.Checks
import LayerAtlas.Proofs.Compression
import LayerAtlas.Proofs.CurrentTimes
import LayerAtlas.Proofs.Dimensions
import LayerAtlas.Proofs.Instants
import LayerAtlas.Proofs.LastInstants
import LayerAtlas.Proofs.MapAcceptance
import LayerAtlas.Proofs.MapReading
import LayerAtlas.Proofs.NormalForm
import LayerAtlas.Proofs.Places
import LayerAtlas.Proofs.Publication
import LayerAtlas.Proofs.Runs
import LayerAtlas.Proofs.TimeMeaning
import LayerAtlas.Reading
import LayerAtlas.Records
import LayerAtlas.Report
import LayerAtlas.Request.Capabilities
import LayerAtlas.Request.Legend
import LayerAtlas.Request.Map
import LayerAtlas.Request.Parameters
import LayerAtlas.Request.Values
import LayerAtlas.RequestError
import LayerAtlas.Scan
import LayerAtlas.Service
import LayerAtlas.Session
import LayerAtlas.Settings
import LayerAtlas.Text.Ascii
import LayerAtlas.Text.Blank
import LayerAtlas.Text.Decimal
import LayerAtlas.Text.Numeral
import LayerAtlas.Text.Shortest
import LayerAtlas.Time.Axis
import LayerAtlas.Time.Calendar
import LayerAtlas.Time.Dimension
import LayerAtlas.Time.Duration
import LayerAtlas.Time.Error
import LayerAtlas.Time.Instant
import LayerAtlas.Time.Request
import LayerAtlas.Time.Timestamp
import LayerAtlas.Unicode.Age
import LayerAtlas.Unicode.CaseFold
import LayerAtlas.Unicode.Category
import LayerAtlas.Unicode.CharSet
import LayerAtlas.Unicode.Letter
import LayerAtlas.Unicode.Property
import LayerAtlas.Unicode.Script
import LayerAtlas.Unicode.Segmentation
import LayerAtlas.Unicode.Table
import LayerAtlas.Unicode.Utf8
import LayerAtlas.Yaml.Cursor
import LayerAtlas.Yaml.Node
import LayerAtlas.Yaml.Reading
import LayerAtlas.Yaml.Scalar
import LayerAtlas.Yaml.Token
import LayerAtlas.Yaml.Tokens
import LayerAtlas.Proofs.Calendar
import LayerAtlas.Proofs.Texts
import LayerAtlas.Proofs.Timestamps
import LayerAtlas.Proofs.Durations
import LayerAtlas.Proofs.Expansion
import LayerAtlas.Proofs.Extents
import LayerAtlas.Proofs.CarriedLayers
import LayerAtlas.Proofs.PrintedValues
import LayerAtlas.Proofs.SingleLayers
import LayerAtlas.Proofs.ExplicitTimes
import LayerAtlas.Proofs.Resubmission
import LayerAtlas.Proofs.AdvertisedTimes
import LayerAtlas.Proofs.AdvertisedValues
import LayerAtlas.Proofs.AwaitedTimes
import LayerAtlas.Proofs.Authorization
import LayerAtlas.Proofs.Refusals
import LayerAtlas.Proofs.SeparateLayers
import LayerAtlas.Proofs.LatestRuns
import LayerAtlas.Proofs.LaterPresents
import LayerAtlas.Proofs.KeptLayers
import LayerAtlas.Proofs.ByteOrder
import LayerAtlas.Proofs.DefinitionFiles
import LayerAtlas.Proofs.Series
import LayerAtlas.Proofs.Legends
import LayerAtlas.Proofs.PlaceNames
import LayerAtlas.Proofs.SharedLimit
import LayerAtlas.Proofs.FittingIntervals
import LayerAtlas.Proofs.QueryArithmetic
import LayerAtlas.Proofs.DurationForms
import LayerAtlas.Proofs.TidyDurations
import LayerAtlas.Proofs.JoinedTimes
import LayerAtlas.Proofs.DroppedFractions
import LayerAtlas.Proofs.LetterCase
import LayerAtlas.Proofs.ReferenceSystems
import LayerAtlas.Proofs.RecasedSystems
import LayerAtlas.Proofs.Subtrees
import LayerAtlas.Proofs.RequestRecords
import LayerAtlas.Proofs.SpacedLists
import LayerAtlas.Proofs.PublishedValues
import LayerAtlas.Proofs.RememberedInventories
