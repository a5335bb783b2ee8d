import DesignTokens.Generation.Registry
import DesignTokens.Proofs.OrderedMap
import DesignTokens.Proofs.Template.Reading
import DesignTokens.Proofs.Text.Lines

/-!
# Templates of the generators

The texts of the templates are read when a generator is built.  They are read as the
pieces below, so there is a generator of every framework for all options.
-/

namespace DesignTokens

namespace Generator

/-- A place in a template that one field fills. -/
def place (name : String) : Piece := .field (.ofField name)

/-! ## Pieces -/

namespace React

/-- The pieces of the template of a component. -/
def template : Template where
  pieces :=
    [.text "import React from 'react';\n",
      place "props_interface",
      .text "\nexport const ",
      place "component",
      place "annotation",
      .text " = (\x7b ",
      place "params",
      .text " \x7d) => \x7b\n  return (\n    <div className=\x7b[",
      place "classes",
      .text ", className].filter(Boolean).join(' ')\x7d \x7b...props\x7d>\n      ",
      place "body",
      .text "\n    </div>\n  );\n\x7d;\n\nexport default ",
      place "component",
      .text ";\n"]

theorem read?_templateText : Template.read? templateText = some template := by
  apply Template.read?_written
  · decide +kernel
  · simp [templateText, template, Text.toList_unlines, Text.unlineChars, Piece.written, place,
      Reference.ofField]

end React

namespace Vue

/-- The pieces of the template of a component. -/
def template : Template where
  pieces :=
    [.text "<template>\n  <div :class=\"[",
      place "classes",
      .text "]\" v-bind=\"$attrs\">\n    ",
      place "slot",
      .text "\n  </div>\n</template>\n\n<script",
      place "script_lang",
      .text ">\n",
      place "script",
      .text "\n</script>\n\n<style",
      place "style_lang",
      .text " scoped>\n@import '",
      place "style_import",
      .text "';\n</style>\n"]

theorem read?_templateText : Template.read? templateText = some template := by
  apply Template.read?_written
  · decide +kernel
  · simp [templateText, template, Text.toList_unlines, Text.unlineChars, Piece.written, place,
      Reference.ofField]

end Vue

namespace Angular

/-- The pieces of the template of a component. -/
def template : Template where
  pieces :=
    [.text "import \x7b ",
      place "core_imports",
      .text " \x7d from '@angular/core';\n\n@Component(\x7b\n  selector: '",
      place "selector",
      .text "',\n  template: `\n    <div class=\"",
      place "classes",
      .text "\">\n      <ng-content></ng-content>\n    </div>\n  `,\n  ",
      place "styles",
      .text "\n\x7d)\n",
      place "class_decl",
      .text "\n"]

theorem read?_templateText : Template.read? templateText = some template := by
  apply Template.read?_written
  · decide +kernel
  · simp [templateText, template, Text.toList_unlines, Text.unlineChars, Piece.written, place,
      Reference.ofField]

/-- The pieces of the template of the module. -/
def moduleTemplate : Template where
  pieces :=
    [.text ("import \x7b NgModule \x7d from '@angular/core';\n"
        ++ "import \x7b CommonModule \x7d from '@angular/common';\n"),
      place "imports",
      .text "\n\n@NgModule(\x7b\n  declarations: [",
      place "declarations",
      .text "],\n  imports: [CommonModule],\n  exports: [",
      place "declarations",
      .text "],\n\x7d)\nexport class ",
      place "module_name",
      .text " \x7b\x7d\n"]

theorem read?_moduleTemplateText : Template.read? moduleTemplateText = some moduleTemplate := by
  apply Template.read?_written
  · decide +kernel
  · simp [moduleTemplateText, moduleTemplate, Text.toList_unlines, Text.unlineChars, Piece.written,
      place, Reference.ofField]

end Angular

/-! ## Building generators -/

theorem register_eq {library : TemplateLibrary} {text : String} {t : Template}
    (read : Template.read? text = some t) (name : String) :
    register library name text = .ok (library.insert name t) := by
  rw [register, TemplateLibrary.register, read]

end Generator

namespace Framework

/-- The templates of a framework. -/
def library : Framework → TemplateLibrary
  | .react => OrderedMap.empty.insert "component" Generator.React.template
  | .vue => OrderedMap.empty.insert "component" Generator.Vue.template
  | .angular =>
    (OrderedMap.empty.insert "component" Generator.Angular.template).insert "module"
      Generator.Angular.moduleTemplate

/-- The generator of a framework with its templates. -/
def generator (framework : Framework) (options : GenerationOptions) : Generator :=
  match framework with
  | .react => ⟨Generator.React.component framework.library options, fun _ => .ok none⟩
  | .vue => ⟨Generator.Vue.component framework.library options, fun _ => .ok none⟩
  | .angular =>
    ⟨Generator.Angular.component framework.library options,
      Generator.Angular.moduleFile framework.library⟩

/-- No factory of a framework fails. -/
theorem factory_eq (framework : Framework) (options : GenerationOptions) :
    framework.factory options = .ok (framework.generator options) := by
  cases framework with
  | react =>
    rw [factory, Generator.react, Generator.register_eq Generator.React.read?_templateText]
    rfl
  | vue =>
    rw [factory, Generator.vue, Generator.register_eq Generator.Vue.read?_templateText]
    rfl
  | angular =>
    have component : Generator.register .empty "component" Generator.Angular.templateText
        = .ok (OrderedMap.empty.insert "component" Generator.Angular.template) :=
      Generator.register_eq Generator.Angular.read?_templateText "component"
    rw [factory, Generator.angular, component]
    show (do
      let library ← Generator.register _ "module" Generator.Angular.moduleTemplateText
      return _) = _
    rw [Generator.register_eq Generator.Angular.read?_moduleTemplateText]
    rfl

end Framework

/-- There is a generator for every framework. -/
theorem Registry.create_standard (options : GenerationOptions) :
    Registry.standard.create options = .ok (options.framework.generator options) := by
  rw [← Framework.factory_eq, create]
  cases options.framework <;> rfl

end DesignTokens
