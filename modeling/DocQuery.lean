import DocQuery.OrderedMap
import DocQuery.Text.Blank
import DocQuery.Text.Digits
import DocQuery.Text.Bytes
import DocQuery.Text.Escaped
import DocQuery.Decimal.Shortest
import DocQuery.Json.Basic
import DocQuery.Json.Printer
import DocQuery.Json.Reader
import DocQuery.Json.Describe
import DocQuery.Error
import DocQuery.Names.Registry
import DocQuery.Mapping
import DocQuery.Schema.Sdl
import DocQuery.Selection
import DocQuery.Store.Operation
import DocQuery.Store.Response
import DocQuery.Store.Memory
import DocQuery.Compile.Assembly
import DocQuery.Calendar.Printer
import DocQuery.Calendar.Reader
import DocQuery.Request.Plan
import DocQuery.Session.Basic
import DocQuery.Store.Sample
import DocQuery.Cluster.Url
import DocQuery.Cluster.Connection
import DocQuery.CommandLine.Dialogue
import DocQuery.Main
import DocQuery.Proofs.Maps.Bindings
import DocQuery.Proofs.Maps.Indexed
import DocQuery.Proofs.Error.Contexts
import DocQuery.Proofs.Text.Bytes
import DocQuery.Proofs.Text.Digits
import DocQuery.Proofs.Calendar.Dates
import DocQuery.Proofs.Calendar.ReadInstants
import DocQuery.Proofs.Calendar.RereadInstants
import DocQuery.Proofs.Names.History
import DocQuery.Proofs.Names.Concurrency
import DocQuery.Proofs.Names.Identifiers
import DocQuery.Proofs.Names.Stripping
import DocQuery.Proofs.Schema.Assembly
import DocQuery.Proofs.Schema.CompletionOrder
import DocQuery.Proofs.Schema.GeneratedNames
import DocQuery.Proofs.Schema.Ownership
import DocQuery.Proofs.Schema.DocumentFields
import DocQuery.Proofs.Schema.Skipping
import DocQuery.Proofs.Schema.WellFormed
import DocQuery.Proofs.Schema.GeneratedTypes
import DocQuery.Proofs.Schema.BuiltSchemas
import DocQuery.Proofs.Session.FailedBuilds
import DocQuery.Proofs.Session.Opened
import DocQuery.Proofs.Request.Records
import DocQuery.Proofs.Request.Documents
import DocQuery.Proofs.Request.ListedAndFetched
import DocQuery.Proofs.Request.Traffic
import DocQuery.Proofs.Request.Requested
import DocQuery.Proofs.Request.Repetitions
import DocQuery.Proofs.Request.Filters
import DocQuery.Proofs.Request.Addressing
import DocQuery.Proofs.Request.Merging
import DocQuery.Proofs.Request.Fetching
import DocQuery.Proofs.Request.Confinement
import DocQuery.Proofs.Request.FilterMeaning
import DocQuery.Proofs.Request.ConformingFilters
import DocQuery.Proofs.Request.FilterGrammar
import DocQuery.Proofs.Request.ResultTypes
import DocQuery.Proofs.Schema.Separation
import DocQuery.Proofs.Session.Siblings
import DocQuery.Proofs.Session.Handles
import DocQuery.Proofs.Cluster.Escaping
import DocQuery.Proofs.Cluster.DocumentAddresses
import DocQuery.Proofs.Cluster.WantedFields
import DocQuery.Proofs.Schema.UniqueReading
import DocQuery.Proofs.Schema.TypeRoles
import DocQuery.Proofs.Schema.LastFields
import DocQuery.Proofs.Session.RepeatedBuilds
import DocQuery.Proofs.Session.Logging
import DocQuery.Proofs.Query.Rendering
import DocQuery.Proofs.Json.DistinctKeys
import DocQuery.Proofs.Cluster.Answers
import DocQuery.Proofs.Store.Discovery
import DocQuery.Proofs.CommandLine.Selections
import DocQuery.Proofs.Error.Contexts
