import BuildSettings.FileTree
import BuildSettings.Main
import BuildSettings.Proofs.Catalog.Decoding
import BuildSettings.Proofs.Catalog.Extension
import BuildSettings.Proofs.Catalog.References
import BuildSettings.Proofs.Catalog.Respelling
import BuildSettings.Proofs.Catalog.RoundTrip
import BuildSettings.Proofs.Command.Endings
import BuildSettings.Proofs.Command.Search
import BuildSettings.Proofs.Command.WorkingDirectory
import BuildSettings.Proofs.Interpolation.Concatenation
import BuildSettings.Proofs.Interpolation.Decomposition
import BuildSettings.Proofs.ModulePath.CamelCase
import BuildSettings.Proofs.ModulePath.Nesting
import BuildSettings.Proofs.Settings.Contents
import BuildSettings.Proofs.Settings.Environment
import BuildSettings.Proofs.Settings.Presentation
import BuildSettings.Proofs.Settings.Repositories
import BuildSettings.Proofs.Workspace.Accessors
import BuildSettings.Proofs.Workspace.Builds
import BuildSettings.Proofs.Workspace.Directories
import BuildSettings.Proofs.Workspace.Growth
import BuildSettings.Proofs.Workspace.JsonForm
