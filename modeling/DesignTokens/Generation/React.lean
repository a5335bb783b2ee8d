import DesignTokens.Generation.Generator

/-!
# Components for React

Key definition: `Generator.react`.
-/

namespace DesignTokens.Generator

namespace React

/-- The text of the template of a component. -/
def templateText : String :=
  Text.unlines
    ["import React from 'react';",
      "\x7b\x7bprops_interface\x7d\x7d",
      "export const \x7b\x7bcomponent\x7d\x7d\x7b\x7bannotation\x7d\x7d"
        ++ " = (\x7b \x7b\x7bparams\x7d\x7d \x7d) => \x7b",
      "  return (",
      "    <div className=\x7b[\x7b\x7bclasses\x7d\x7d, className]"
        ++ ".filter(Boolean).join(' ')\x7d \x7b...props\x7d>",
      "      \x7b\x7bbody\x7d\x7d",
      "    </div>",
      "  );",
      "\x7d;",
      "",
      "export default \x7b\x7bcomponent\x7d\x7d;"]

/-- The interface of the properties of a component. -/
def propsInterface (component : String) (text : Bool) : String :=
  "\n".intercalate <|
    ["",
      "export interface " ++ component
        ++ "Props extends React.HTMLAttributes<HTMLDivElement> \x7b",
      "  children?: React.ReactNode;"]
      ++ (if text then ["  text?: string;"] else [])
      ++ ["\x7d", ""]

/-- What the template of a component is filled with. -/
def data (options : GenerationOptions) (c : Component) : List (String × String) :=
  let component := Naming.pascal c.name
  [("component", component),
    ("props_interface",
      if options.typescript then propsInterface component (hasText c) else ""),
    ("annotation",
      if options.typescript then ": React.FC<" ++ component ++ "Props>" else ""),
    ("params",
      if hasText c then "text, className, children, ...props"
      else "className, children, ...props"),
    ("classes", quotedClasses .tailwind c),
    ("body", if hasText c then "\x7bchildren ?? text\x7d" else "\x7bchildren\x7d")]

/-- The source file of a component. -/
def component (library : TemplateLibrary) (options : GenerationOptions) (c : Component) :
    Except GenerationError GeneratedFile := do
  let content ← fill library "component" (data options c)
  let name := Naming.pascal c.name
  return {
    fileName := name ++ (if options.typescript then ".tsx" else ".jsx")
    content
    kind := .component
    path := ["components", name] }

end React

/-- Writes function components.  There is no module file. -/
def react (options : GenerationOptions) : Except GenerationError Generator := do
  let library ← register .empty "component" React.templateText
  return {
    component := React.component library options
    moduleFile := fun _ => .ok none }

end DesignTokens.Generator
