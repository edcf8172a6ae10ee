import DashboardExport.Main
import DashboardExport.Proofs.Inventory.ResourceNames
import DashboardExport.Proofs.Inventory.Traversal
import DashboardExport.Proofs.Inventory.VisualizationNames
import DashboardExport.Proofs.Rendering.Options
import DashboardExport.Proofs.Inventory.Repetitions
import DashboardExport.Proofs.Hcl.Lines
import DashboardExport.Proofs.Rendering.Settings
import DashboardExport.Proofs.Rendering.Texts
import DashboardExport.Proofs.Rendering.ClosedReferences
import DashboardExport.Proofs.Model.TableOptions
import DashboardExport.Proofs.Decoding.Integers
import DashboardExport.Proofs.Rendering.TableOptions
import DashboardExport.Proofs.Inventory.Failures
import DashboardExport.Proofs.Inventory.Owners
import DashboardExport.Proofs.Export.Files
import DashboardExport.Proofs.Export.Runs
import DashboardExport.Proofs.Export.Extension
import DashboardExport.Proofs.Agreement
import DashboardExport.Proofs.Renaming.Payloads
import DashboardExport.Proofs.Renaming.Loads
import DashboardExport.Proofs.Renaming.Exports
import DashboardExport.Proofs.Renaming.Services
import DashboardExport.Proofs.Inventory.Tokens
import DashboardExport.Proofs.Storage.Directories
import DashboardExport.Proofs.Export.Placement
import DashboardExport.Proofs.Export.Failures
import DashboardExport.Proofs.Rendering.Consistency
import DashboardExport.Proofs.Rendering.Decodable
import DashboardExport.Proofs.Decoding.Rejections
import DashboardExport.Proofs.Service.Answers
import DashboardExport.Proofs.Rendering.Failures
import DashboardExport.Proofs.Export.Escapes
import DashboardExport.Proofs.Decoding.Dumps
import DashboardExport.Proofs.Model.Dumps
import DashboardExport.Proofs.Decoding.Changes
import DashboardExport.Proofs.Spelling.Payloads
import DashboardExport.Proofs.Spelling.Loads
import DashboardExport.Proofs.Spelling.Exports
import DashboardExport.Proofs.Inventory.Numbering
import DashboardExport.Proofs.Hcl.Template
import DashboardExport.Proofs.Configuration.Precedence
import DashboardExport.Proofs.Configuration.Escapes
import DashboardExport.Proofs.Model.NullValues
import DashboardExport.Proofs.Rendering.Renderable
import DashboardExport.Proofs.Rendering.UnquotedNames
import DashboardExport.Proofs.Rendering.ParameterBlocks
import DashboardExport.Proofs.Configuration.Placeholders
import DashboardExport.Proofs.Model.OptionalFields
import DashboardExport.Proofs.Model.ParameterLists
import DashboardExport.Proofs.Service.Resources
import DashboardExport.Proofs.Hcl.Scripts
import DashboardExport.Proofs.Text.Quoted
import DashboardExport.Proofs.Naming.Canonical
