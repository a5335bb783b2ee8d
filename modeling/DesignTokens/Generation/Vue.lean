import DesignTokens.Generation.Generator

/-!
# Components for Vue

Key definition: `Generator.vue`.
-/

namespace DesignTokens.Generator

namespace Vue

/-- The text of the template of a component. -/
def templateText : String :=
  Text.unlines
    ["<template>",
      "  <div :class=\"[\x7b\x7bclasses\x7d\x7d]\" v-bind=\"$attrs\">",
      "    \x7b\x7bslot\x7d\x7d",
      "  </div>",
      "</template>",
      "",
      "<script\x7b\x7bscript_lang\x7d\x7d>",
      "\x7b\x7bscript\x7d\x7d",
      "</script>",
      "",
      "<style\x7b\x7bstyle_lang\x7d\x7d scoped>",
      "@import '\x7b\x7bstyle_import\x7d\x7d';",
      "</style>"]

/-- The script of a component. -/
def script (typescript : Bool) (component : String) (text : Bool) : String :=
  "\n".intercalate <|
    (if typescript then
        ["import \x7b defineComponent \x7d from 'vue';", "",
          "export default defineComponent(\x7b"]
      else ["export default \x7b"])
      ++ ["  name: '" ++ component ++ "',"]
      ++ (if text then ["  props: \x7b", "    text: \x7b type: String \x7d,", "  \x7d,"] else [])
      ++ [if typescript then "\x7d);" else "\x7d;"]

/-- What the template of a component is filled with. -/
def data (options : GenerationOptions) (c : Component) : List (String × String) :=
  let component := Naming.pascal c.name
  [("classes", quotedClasses .tailwind c),
    ("slot", if hasText c then "<slot>\x7b\x7b text \x7d\x7d</slot>" else "<slot></slot>"),
    ("script_lang", if options.typescript then " lang=\"ts\"" else ""),
    ("script", script options.typescript component (hasText c)),
    ("style_lang", if options.styleFormat = .scss then " lang=\"scss\"" else ""),
    ("style_import", styleImport component options.styleFormat.extension)]

/-- The source file of a component. -/
def component (library : TemplateLibrary) (options : GenerationOptions) (c : Component) :
    Except GenerationError GeneratedFile := do
  let content ← fill library "component" (data options c)
  let name := Naming.pascal c.name
  return {
    fileName := name ++ ".vue"
    content
    kind := .component
    path := ["components", name] }

end Vue

/-- Writes single-file components.  There is no module file. -/
def vue (options : GenerationOptions) : Except GenerationError Generator := do
  let library ← register .empty "component" Vue.templateText
  return {
    component := Vue.component library options
    moduleFile := fun _ => .ok none }

end DesignTokens.Generator
