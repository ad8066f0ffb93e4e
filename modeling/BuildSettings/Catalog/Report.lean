/-
# Catalog reports

A resolved catalog as text: its libraries, and its bundles and plugins if it has
any, each under a heading with their number.
-/

import BuildSettings.Catalog.Resolve
import BuildSettings.Workspace.Report

namespace BuildSettings

/-- The report of a catalog that is declared under a name with a source. -/
def ResolvedCatalog.report (catalog : ResolvedCatalog) (name : String) (source : Path) : String :=
  Workspace.textOfLines <|
    ["Catalog '" ++ name ++ "' (" ++ source.spelling ++ "):",
      Workspace.heading "Libraries" catalog.libraries.length]
    ++ catalog.libraries.map (fun library => "  " ++ library.key ++ " = " ++ library.coordinates)
    ++ (if catalog.bundles.isEmpty then []
      else Workspace.heading "Bundles" catalog.bundles.size
        :: catalog.bundles.toList.map fun bundle =>
          "  " ++ bundle.1 ++ " = [" ++ ", ".intercalate bundle.2 ++ "]")
    ++ (if catalog.plugins.isEmpty then []
      else Workspace.heading "Plugins" catalog.plugins.length
        :: catalog.plugins.map fun plugin =>
          "  " ++ plugin.key ++ " = " ++ plugin.coordinates)

end BuildSettings
