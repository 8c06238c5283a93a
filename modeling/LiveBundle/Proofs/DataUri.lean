import LiveBundle.Proofs.Placeholder
import LiveBundle.Proofs.Script.DefaultExport
import LiveBundle.Proofs.Text.Basic
import LiveBundle.Proofs.Web.Percent

/-!
# Vector images as modules

A vector image is served as a module whose default export is a data URI, a string that holds the
whole image.

* `isUriChar` are the characters that an image is written with besides escaped bytes, and
  `unquoted_of_mem_dataUri`: none of them ends a string literal or needs an escape in one;
* `parse_stringModule`, `body_stringModule`: what such a module is read as, and what becomes of it
  in a bundle;
* `vector_image_exported` puts these together with the decoding of the image.
-/

namespace LiveBundle

open Script (Lexer.token Lexer.isLineEnd)
open Web (Percent.Encoded Percent.encode Percent.decode Percent.isEscapeDigit)

/-! ## The characters of data URIs -/

/-- The characters that stand for themselves in a data URI: letters and digits of ASCII, and eight
marks. -/
def isUriChar (c : Char) : Bool :=
  Text.isAsciiAlphanumeric c || ['-', '_', '.', '!', '~', '*', '(', ')'].contains c

/-- The character neither ends a string literal, of whichever quotes, nor needs an escape in one. -/
structure Unquoted (c : Char) : Prop where
  double : c ≠ '"'
  single : c ≠ '\''
  backtick : c ≠ '\x60'
  backslash : c ≠ '\\'
  lineEnd : Lexer.isLineEnd c = false
  printed : 0x20 ≤ c.toNat

/-- The text in front of an image in its data URI. -/
def dataUriPrefix : String := "data:image/svg+xml;charset=utf-8,"

lemma isKeptInDataUri_eq (c : Char) : LibraryFile.isKeptInDataUri c = isUriChar c := by
  by_cases hc : c = '\''
  · subst hc
    decide
  · simp [LibraryFile.isKeptInDataUri, Web.Percent.isUriComponent, isUriChar, hc]

/-- The characters of a data URI, those in front of the image included. -/
def isInDataUri (c : Char) : Bool :=
  isUriChar c || c == '%' || Percent.isEscapeDigit c || dataUriPrefix.toList.contains c

lemma unquoted_of_isInDataUri {c : Char} (h : isInDataUri c = true) : Unquoted c := by
  have hne {d : Char} (hd : isInDataUri d = false) : c ≠ d := by
    rintro rfl
    rw [h] at hd
    cases hd
  have hcontrols : ∀ n < 0x20, isInDataUri (Char.ofNat n) = false := by decide +kernel
  refine ⟨hne (by decide +kernel), hne (by decide +kernel), hne (by decide +kernel),
    hne (by decide +kernel), ?_, ?_⟩
  · exact Script.Lexer.isLineEnd_of_class isInDataUri (by decide +kernel) (by decide +kernel)
      (by decide +kernel) (by decide +kernel) h
  · by_contra hcontrol
    exact hne (hcontrols c.toNat (by omega)) (Char.ofNat_toNat c).symm

/-- The part of a data URI that holds the image. -/
def imagePart (image : String) : String :=
  String.ofList (Percent.encode LibraryFile.isKeptInDataUri image.toList)

lemma encoded_imagePart (image : String) :
    Percent.Encoded (isUriChar · = true) (imagePart image).toList := by
  rw [imagePart, String.toList_ofList]
  exact Web.Percent.encoded_encode (fun c _ hkept => isKeptInDataUri_eq c ▸ hkept) image.toList

lemma unquoted_of_mem_dataUri {image : String} :
    ∀ c ∈ (LibraryFile.dataUri image).toList, Unquoted c := by
  intro c hc
  refine unquoted_of_isInDataUri ?_
  have hsplit : (LibraryFile.dataUri image).toList =
      dataUriPrefix.toList ++ (imagePart image).toList := String.toList_append
  rw [hsplit, List.mem_append] at hc
  simp only [isInDataUri, Bool.or_eq_true, beq_iff_eq, List.contains_iff_mem]
  rcases hc with hc | hc
  · exact .inr hc
  · rcases (encoded_imagePart image).mem hc with h | h | h
    · exact .inl (.inl (.inl h))
    · exact .inl (.inl (.inr h))
    · exact .inl (.inr h)

/-! ## Modules that export a string -/

/-- The module whose default export is a string that needs no escapes. -/
def stringModule (s : String) : String := "export default \"" ++ s ++ "\";"

section

variable {s : String}

/-- In quotes the string stays as it is. -/
lemma quote_of_unquoted (h : ∀ c ∈ s.toList, Unquoted c) : Json.quote s = "\"" ++ s ++ "\"" := by
  have hself : s.toList.flatMap Json.escapeChar = s.toList := by
    rw [List.flatMap_congr fun c hc => ?_, List.flatMap_singleton']
    · obtain ⟨hdouble, -, -, hbackslash, -, hprinted⟩ := h c hc
      rw [Json.escapeChar, if_neg hdouble, if_neg hbackslash, if_neg (by omega)]
  refine String.toList_injective ?_
  simp [Json.quote, Json.quoteChars, hself]

lemma stringModule_eq (h : ∀ c ∈ s.toList, Unquoted c) :
    (stringModule s).toList = "export default ".toList ++ ((Json.quote s).toList ++ [';']) := by
  show ("export default \"" ++ s ++ "\";").toList = _
  rw [quote_of_unquoted h]
  simp

/-- The module is read as one statement with one edit, at the words in front of the string. -/
lemma parse_stringModule (h : ∀ c ∈ s.toList, Unquoted c) (id : String) :
    ModuleSyntax.parse id (stringModule s) = .ok ⟨[], [⟨0, 15, .defaultExpression⟩]⟩ := by
  obtain ⟨head, hstart, hstop, hparse⟩ :=
    Script.Program.parse_defaultString (ModuleSyntax.isTyped id) (stringModule_eq h)
  rw [ModuleSyntax.parse, hparse]
  have hedits : [Script.Item.exportDefaultExpression head].flatMap ModuleSyntax.itemEdits =
      [⟨0, 15, .defaultExpression⟩] := by
    simp [ModuleSyntax.itemEdits, ModuleSyntax.editOf, hstart, hstop]
  simp only [ModuleSyntax.unsupported?, List.findSome?_cons, List.findSome?_nil,
    ModuleSyntax.ofProgram, ModuleSyntax.editsOf, hedits]
  rfl

/-- The line that exports the variable for a default expression. -/
def defaultHeader : String :=
  "__pg_export(exports, \x7b \"default\": function () \x7b return __default__; \x7d \x7d);\n"

/-- In a bundle the string is the value of a variable, which is what the export gives. -/
lemma body_stringModule (h : ∀ c ∈ s.toList, Unquoted c) {m : Module}
    (hcode : m.code = stringModule s)
    (hparsed : ModuleSyntax.parse m.id m.code = .ok m.syntax_) :
    m.body = defaultHeader ++ ("const __default__ = \"" ++ s ++ "\";") := by
  have hedits : m.syntax_.edits = [⟨0, 15, .defaultExpression⟩] := by
    rw [hcode, parse_stringModule h] at hparsed
    rw [← Except.ok.inj hparsed]
  have hchars : m.code.toList = "export default ".toList ++ ((Json.quote s).toList ++ [';']) := by
    rw [hcode, stringModule_eq h]
  have hhead : Text.byteSize "export default ".toList = 15 := by decide +kernel
  have hkept : keptEdits (Text.byteSize m.code.toList) 0 m.syntax_.edits = m.syntax_.edits := by
    rw [hedits, keptEdits, if_neg, keptEdits]
    rw [hchars, Text.byteSize_append, hhead]
    simp
  have hnone : Text.bytesTake 0 m.code.toList = [] := Text.bytesTake_append [] m.code.toList
  have hrest : Text.bytesDrop 15 m.code.toList = (Json.quote s).toList ++ [';'] := by
    rw [hchars, ← hhead, Text.bytesDrop_append]
  have hsplice : spliceFrom m.resolved 0 m.code.toList {} m.syntax_.edits =
      ("const __default__ = ".toList ++ ((Json.quote s).toList ++ [';']),
        ({} : Splice).getter "default" defaultVariable) := by
    have hdeclared : "const " ++ defaultVariable ++ " = " = "const __default__ = " := by
      decide +kernel
    rw [hedits, ← hrest, ← hdeclared]
    show (Text.bytesTake 0 m.code.toList ++ ("const " ++ defaultVariable ++ " = ").toList ++
      Text.bytesDrop 15 m.code.toList, _) = _
    rw [hnone]
    rfl
  have hheader : exportHeader [("default", defaultVariable)] = defaultHeader := by decide +kernel
  show exportHeader (spliceFrom _ _ _ _ (keptEdits _ _ _)).2.getters ++
    String.ofList (spliceFrom _ _ _ _ (keptEdits _ _ _)).1 = _
  rw [hkept, hsplice, quote_of_unquoted h]
  show exportHeader [("default", defaultVariable)] ++ _ = _
  rw [hheader]
  refine congrArg (defaultHeader ++ ·) (String.toList_injective ?_)
  simp

/-- In quotes of either kind the string is one literal, which stands for the string itself. -/
lemma token_of_unquoted (h : ∀ c ∈ s.toList, Unquoted c) {quote : Char}
    (hquote : quote = '"' ∨ quote = '\'') (rest : List Char) :
    Lexer.token (quote :: s.toList ++ quote :: rest) =
      some (.string s, s.toList.length + 2) := by
  rcases hquote with rfl | rfl
  · have hread := Json.token_quote s rest
    rw [quote_of_unquoted h] at hread
    simpa using hread
  · have hplain : ∀ c ∈ s.toList, c ≠ '\'' ∧ c ≠ '\\' ∧ c ≠ '\n' ∧ c ≠ '\r' := by
      intro c hc
      obtain ⟨-, hsingle, -, hbackslash, hlineEnd, -⟩ := h c hc
      refine ⟨hsingle, hbackslash, ?_, ?_⟩ <;> rintro rfl <;> cases hlineEnd
    rw [Script.Lexer.token_string hplain, String.ofList_toList]

end

/-! ## Vector images -/

/-- A library file that is a vector image is served as a module that exports its data URI. The part
of it behind the fixed beginning consists of the characters that stand for themselves and of escaped
bytes, so nothing in it ends or breaks a string literal of either kind of quotes. The module is this
one string literal: it is read as a single default export, and in a bundle the export gives this
string. Decoding the part gives the image back. -/
theorem vector_image_exported {registry : Registry} {id path : String}
    (hid : Specifier.filePath? id = some path)
    (hvector : LibraryFile.isVector registry id path = true) (image : String) :
    ∃ part uri, uri = "data:image/svg+xml;charset=utf-8," ++ part ∧
      LibraryFile.transform registry image id = .ok (some ("export default \"" ++ uri ++ "\";")) ∧
      (isComponentId id = false → ∀ config, Chain.transform (providers config registry) image id =
        pure ("export default \"" ++ uri ++ "\";")) ∧
      Percent.Encoded (isUriChar · = true) part.toList ∧
      (∀ c ∈ uri.toList, Unquoted c) ∧
      (∀ quote, quote = '"' ∨ quote = '\'' → ∀ rest,
        Lexer.token (quote :: uri.toList ++ quote :: rest) =
          some (.string uri, uri.toList.length + 2)) ∧
      ModuleSyntax.parse id ("export default \"" ++ uri ++ "\";") =
        .ok ⟨[], [⟨0, 15, .defaultExpression⟩]⟩ ∧
      (∀ m : Module, m.code = "export default \"" ++ uri ++ "\";" →
        ModuleSyntax.parse m.id m.code = .ok m.syntax_ →
        m.body = defaultHeader ++ ("const __default__ = \"" ++ uri ++ "\";")) ∧
      Text.Utf8.decode? (Percent.decode part.toList) = some image.toList := by
  refine ⟨imagePart image, LibraryFile.dataUri image, rfl, ?_, ?_, encoded_imagePart image,
    unquoted_of_mem_dataUri, fun quote hquote => token_of_unquoted unquoted_of_mem_dataUri hquote,
    parse_stringModule unquoted_of_mem_dataUri id,
    fun m => body_stringModule unquoted_of_mem_dataUri, ?_⟩
  · rw [LibraryFile.transform, hid]
    simp only [hvector, if_true]
  · intro hcomponent config
    exact transform_image hid hvector hcomponent image
  · rw [imagePart, String.toList_ofList]
    exact Web.Percent.decode?_decode_encode (by decide) image.toList

namespace Icon

/-- The id of an icon. -/
def id : String := "virtual:file/icons/check.svg"

/-- An icon with quotes of both kinds, an escape, a line separator and a letter beyond ASCII. -/
def image : String := "<svg id='a%27' class=\"\\\u2028\"><title>\u00e9\n</title></svg>"

end Icon

/-- The data URI of an icon with such characters is a string that holds the icon. -/
theorem vector_image_exported_icon :
    Specifier.filePath? Icon.id = some "icons/check.svg" ∧
    LibraryFile.isVector (.ofEntries []) Icon.id "icons/check.svg" = true ∧
    ∃ part uri, uri = "data:image/svg+xml;charset=utf-8," ++ part ∧
      LibraryFile.transform (.ofEntries []) Icon.image Icon.id =
        .ok (some ("export default \"" ++ uri ++ "\";")) ∧
      Lexer.token ('"' :: uri.toList ++ ['"']) = some (.string uri, uri.toList.length + 2) ∧
      Text.Utf8.decode? (Percent.decode part.toList) = some Icon.image.toList := by
  have hid : Specifier.filePath? Icon.id = some "icons/check.svg" := by decide +kernel
  have hvector : LibraryFile.isVector (.ofEntries []) Icon.id "icons/check.svg" = true := by
    decide +kernel
  obtain ⟨part, uri, huri, htransform, -, -, -, htoken, -, -, hdecode⟩ :=
    vector_image_exported hid hvector Icon.image
  exact ⟨hid, hvector, part, uri, huri, htransform, htoken '"' (.inl rfl) [], hdecode⟩

end LiveBundle
