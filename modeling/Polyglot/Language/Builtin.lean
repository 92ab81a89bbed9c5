import Polyglot.Language.Basic

/-! The languages that are known without configuration. -/

namespace Polyglot

/-- A language without changes of its own to its virtual documents. -/
def Language.plain (name extension : String) (aliases triggers : List String)
    (features : LanguageFeatures) : Language where
  name := name
  aliases := aliases
  extension := extension
  triggerCharacters := triggers
  features := features

/-- The built-in languages, in order. -/
def builtinLanguages : List Language := [
  { Language.plain "python" "py" ["ipython", "python3"] ["."] .all with
    fixup := some .typeIgnoreDirective },
  .plain "r" "r" [] ["$", "@", ":", "."] .all,
  .plain "julia" "jl" [] ["."] .all,
  .plain "sql" "sql" [] ["."] .basic,
  .plain "bash" "sh" ["sh", "shell"] [] .basic,
  .plain "ojs" "js" [] ["."] .all,
  .plain "html" "html" [] ["<", ".", ":", "\"", "=", "/"] .all,
  .plain "css" "css" [] [".", ":", "-", "#"] .all,
  .plain "javascript" "js" ["js"] ["."] .all,
  .plain "typescript" "ts" ["ts"] ["."] .all,
  .plain "tex" "tex" ["latex"] ["\\"] .basic,
  .plain "cpp" "cpp" ["c++"] [".", ":", ">"] .all,
  .plain "rust" "rs" [] [".", ":"] .all,
  .plain "go" "go" [] ["."] .all,
  .plain "java" "java" [] ["."] .all,
  .plain "lua" "lua" [] [".", ":"] .all,
  .plain "dot" "dot" [] [] .basic,
  .plain "mermaid" "mmd" [] [] .basic]

end Polyglot
