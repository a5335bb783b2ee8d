import DesignTokens.Generation.Generator

/-!
# Components for Angular

Components for Angular are declared by a module, which has a file of its own.

Key definition: `Generator.angular`.
-/

namespace DesignTokens.Generator

namespace Angular

/-! ## Names -/

/-- The class of a component. -/
def className (c : Component) : String := Naming.pascal c.name ++ "Component"

/-- The name of the source file of a component without its extension. -/
def fileStem (c : Component) : String := Naming.kebab c.name ++ ".component"

/-! ## Components -/

/-- The text of the template of a component. -/
def templateText : String :=
  Text.unlines
    ["import \x7b \x7b\x7bcore_imports\x7d\x7d \x7d from '@angular/core';",
      "",
      "@Component(\x7b",
      "  selector: '\x7b\x7bselector\x7d\x7d',",
      "  template: `",
      "    <div class=\"\x7b\x7bclasses\x7d\x7d\">",
      "      <ng-content></ng-content>",
      "    </div>",
      "  `,",
      "  \x7b\x7bstyles\x7d\x7d",
      "\x7d)",
      "\x7b\x7bclass_decl\x7d\x7d"]

/-- The inputs of a component. -/
def inputs (c : Component) : List String :=
  (if hasText c then ["@Input() text?: string;"] else [])
    ++ (if c.styles.layout.itemSpacing.isSome then ["@Input() spacing?: number;"] else [])

/-- The declaration of the class of a component. -/
def classDeclaration (c : Component) : String :=
  match inputs c with
  | [] => "export class " ++ className c ++ " \x7b\x7d"
  | given =>
    "\n".intercalate <|
      ["export class " ++ className c ++ " \x7b"] ++ given.map ("  " ++ ·) ++ ["\x7d"]

/-- The class names of a component: its own, and those of its layout. -/
def classNames (c : Component) : String :=
  let layout := c.styles.layout.classes .bootstrap
  Naming.kebab c.name ++ (if layout.isEmpty then "" else " " ++ layout)

/-- The property that names the stylesheet of a component. -/
def styles (options : GenerationOptions) (c : Component) : String :=
  match options.styleFormat with
  | .scss =>
    "styleUrls: ['" ++ styleImport (Naming.pascal c.name) options.styleFormat.extension ++ "'],"
  | .css | .tailwind => "styles: [],"

/-- What the template of a component is filled with. -/
def data (options : GenerationOptions) (c : Component) : List (String × String) :=
  [("core_imports", if (inputs c).isEmpty then "Component" else "Component, Input"),
    ("selector", Naming.selector "app" c.name),
    ("classes", classNames c),
    ("styles", styles options c),
    ("class_decl", classDeclaration c)]

/-- The source file of a component. -/
def component (library : TemplateLibrary) (options : GenerationOptions) (c : Component) :
    Except GenerationError GeneratedFile := do
  let content ← fill library "component" (data options c)
  return {
    fileName := fileStem c ++ ".ts"
    content
    kind := .component
    path := ["components", Naming.pascal c.name] }

/-! ## Modules -/

/-- The text of the template of the module. -/
def moduleTemplateText : String :=
  Text.unlines
    ["import \x7b NgModule \x7d from '@angular/core';",
      "import \x7b CommonModule \x7d from '@angular/common';",
      "\x7b\x7bimports\x7d\x7d",
      "",
      "@NgModule(\x7b",
      "  declarations: [\x7b\x7bdeclarations\x7d\x7d],",
      "  imports: [CommonModule],",
      "  exports: [\x7b\x7bdeclarations\x7d\x7d],",
      "\x7d)",
      "export class \x7b\x7bmodule_name\x7d\x7d \x7b\x7d"]

/-- The line that imports a component into the module. -/
def importLine (c : Component) : String :=
  "import \x7b " ++ className c ++ " \x7d from './components/" ++ Naming.pascal c.name ++ "/"
    ++ fileStem c ++ "';"

/-- What the template of the module is filled with. -/
def moduleData (cs : List Component) : List (String × String) :=
  [("imports", "\n".intercalate (cs.map importLine)),
    ("declarations", ", ".intercalate (cs.map className)),
    ("module_name", "ComponentsModule")]

/-- The file of the module that declares all components. -/
def moduleFile (library : TemplateLibrary) (cs : List Component) :
    Except GenerationError (Option GeneratedFile) := do
  let content ← fill library "module" (moduleData cs)
  return some {
    fileName := "components.module.ts"
    content
    kind := .module
    path := [] }

end Angular

/-- Writes component classes and the module that declares them. -/
def angular (options : GenerationOptions) : Except GenerationError Generator := do
  let library ← register .empty "component" Angular.templateText
  let library ← register library "module" Angular.moduleTemplateText
  return {
    component := Angular.component library options
    moduleFile := Angular.moduleFile library }

end DesignTokens.Generator
