import LiveBundle.Component.Block
import LiveBundle.Style.Compiler

/-!
# Preprocessing of style blocks

A style block may say by its `lang` attribute that it is written in a style language. Blocks in the
languages that are recognized are compiled to plain styles in place and lose that attribute; a block
that does not compile keeps its content.

* `preprocess` does this for a component, `needsPreprocessing` is the test in front of it.
-/

namespace LiveBundle.Component

open Text (isBlank)

/-- Whether a source names one of the languages in a `lang` attribute in its plain spelling. -/
def needsPreprocessing (languages : List String) (source : String) : Bool :=
  languages.any fun language =>
    Text.contains ("lang=\"" ++ language ++ "\"") source ||
      Text.contains ("lang='" ++ language ++ "'") source

/-- Finds `lang` attributes; the value is the text between its quotes. -/
def langPattern : Text.Pattern (List Char) := fun _ s =>
  match s with
  | c :: _ =>
    if !isBlank c then none
    else
      match Text.wordUpToCase? ['l', 'a', 'n', 'g'] (s.dropWhile isBlank) with
      | none => none
      | some (_, rest) =>
        match rest.dropWhile isBlank with
        | '=' :: rest =>
          match rest.dropWhile isBlank with
          | '"' :: rest => Text.splitAt? '"' rest
          | '\'' :: rest => Text.splitAt? '\'' rest
          | _ => none
        | _ => none
  | [] => none

/-- The text from a place on without its first `lang` attribute, and the value of that attribute. -/
def takeLang : List Char → Option (List Char × List Char)
  | [] => none
  | c :: cs =>
    match langPattern false (c :: cs) with
    | some hit => some hit
    | none => (takeLang cs).map fun (value, rest) => (value, c :: rest)

/-- Compiles a style block, if its language is one of those given. -/
def preprocessBlock (styleCompiler : Style.Compiler) (languages : List String) (b : Block) :
    List Char :=
  match takeLang b.attributes with
  | none => b.text
  | some (lang, attributes) =>
    if languages.any (Text.eqIgnoreAsciiCase · (String.ofList lang)) then
      let content := match styleCompiler (String.ofList b.body) with
        | .ok css => css.toList
        | .error _ => b.body
      "<style".toList ++ attributes ++ ['>'] ++ content ++ "</style>".toList
    else b.text

/-- Compiles the style blocks of a component that are written in one of the languages. -/
def preprocess (styleCompiler : Style.Compiler) (languages : List String) (source : String) :
    String :=
  if needsPreprocessing languages source then
    String.ofList (Text.replaceAll (Block.pattern [Block.styleName])
      (preprocessBlock styleCompiler languages) source.toList)
  else source

end LiveBundle.Component
