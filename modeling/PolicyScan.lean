import PolicyScan.Main
import PolicyScan.Proofs.EngineCache.Loads
import PolicyScan.Proofs.EngineCache.Session
import PolicyScan.Proofs.Json.Number
import PolicyScan.Proofs.Json.Tree
import PolicyScan.Proofs.Json.Reading
import PolicyScan.Proofs.Json.Canonical
import PolicyScan.Proofs.Json.Compact
import PolicyScan.Proofs.Yaml.Value
import PolicyScan.Proofs.Hcl.Value
import PolicyScan.Proofs.Handoff
import PolicyScan.Proofs.Yaml.Blank
import PolicyScan.Proofs.Yaml.Progress
import PolicyScan.Proofs.Manifest
import PolicyScan.Proofs.Yaml.Quoted
import PolicyScan.Proofs.Yaml.Flow
import PolicyScan.Proofs.JsonInYaml.Tokens
import PolicyScan.Proofs.JsonInYaml.Text
import PolicyScan.Proofs.JsonInYaml.Nodes
import PolicyScan.Proofs.JsonInYaml.Values
import PolicyScan.Proofs.JsonManifest
import PolicyScan.Proofs.EngineCache.Race
import PolicyScan.Proofs.Scan
import PolicyScan.Proofs.Scan.Independence
import PolicyScan.Proofs.Batch
import PolicyScan.Proofs.Pipeline
import PolicyScan.Proofs.Manifest.Stream
import PolicyScan.Proofs.Json.Ordered
import PolicyScan.Proofs.Json.Pretty
import PolicyScan.Proofs.Json.Expect
import PolicyScan.Proofs.Results
import PolicyScan.Proofs.Violation
import PolicyScan.Proofs.Report.Data
import PolicyScan.Proofs.Arguments
import PolicyScan.Proofs.Report
import PolicyScan.Proofs.Report.Retelling
import PolicyScan.Proofs.Command
import PolicyScan.Proofs.Json.Skip
import PolicyScan.Proofs.Json.Meaning
import PolicyScan.Proofs.Violation.Meaning
import PolicyScan.Proofs.Engine
import PolicyScan.Proofs.Path
import PolicyScan.Proofs.FileKind
import PolicyScan.Proofs.FileStore
import PolicyScan.Proofs.Loader
import PolicyScan.Proofs.Report.Header
import PolicyScan.Proofs.Pipeline.Apart
import PolicyScan.Proofs.Artifacts
import PolicyScan.Proofs.Settings
import PolicyScan.Proofs.Json.Outline
import PolicyScan.Proofs.Rego.Value
import PolicyScan.Proofs.Rego.Query
import PolicyScan.Proofs.Rego.Evaluation
import PolicyScan.Proofs.Rego.Equal
import PolicyScan.Proofs.Policies
import PolicyScan.Proofs.Report.Order
import PolicyScan.Proofs.Report.Colour
import PolicyScan.Proofs.Violation.Record
import PolicyScan.Proofs.Arguments.Spelling
