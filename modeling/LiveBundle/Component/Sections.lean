import LiveBundle.Component.Block
import LiveBundle.Diagnostic

/-!
# The sections of a component

The scripts, the styles and the markup of a component. The markup is the whole text with the blocks
blanked out, so that a byte offset in it is one in the source.

* `Sections.split` cuts a source; a block that is not closed is a failure at its opening tag.
* `byteSize_blank` says that blanking keeps offsets.
-/

namespace LiveBundle.Component

/-- The sections of a component. -/
structure Sections where
  /-- The bodies of the script blocks, each with a line feed behind it. -/
  script : List Char
  /-- The bodies of the style blocks, each with a line feed behind it. -/
  styles : List Char
  /-- The source with spaces in place of its blocks. -/
  markup : List Char
deriving DecidableEq

/-- A block, or an opening tag without a closing tag and all that follows it. -/
inductive Region where
  | closed (block : Block)
  | unclosed (isScript : Bool) (text : List Char)
deriving DecidableEq

/-- Finds opening tags of scripts and styles. -/
def Region.pattern : Text.Pattern Region := fun _ s =>
  match Block.openTag? [Block.scriptName, Block.styleName] s with
  | none => none
  | some (name, attributes, rest) =>
    match Block.untilClose (Block.closingName name) rest with
    | some (body, closing, rest) => some (.closed ⟨name, attributes, body, closing⟩, rest)
    | none => some (.unclosed (Block.namesScript name) s, [])

/-- Spaces in place of a text: one for each byte, line feeds kept. -/
def blank (text : List Char) : List Char :=
  text.flatMap fun c => if c = '\n' then ['\n'] else List.replicate c.utf8Size ' '

theorem byteSize_replicate_space (n : Nat) : Text.byteSize (List.replicate n ' ') = n := by
  induction n with
  | zero => rfl
  | succ n ih =>
    have h : ' '.utf8Size = 1 := rfl
    simp only [List.replicate_succ, Text.byteSize, ih, h]
    omega

/-- Blanking keeps the number of bytes. -/
theorem byteSize_blank (text : List Char) : Text.byteSize (blank text) = Text.byteSize text := by
  induction text with
  | nil => rfl
  | cons c cs ih =>
    have h : blank (c :: cs) =
        (if c = '\n' then ['\n'] else List.replicate c.utf8Size ' ') ++ blank cs := rfl
    rw [h, Text.byteSize_append, ih]
    by_cases hc : c = '\n'
    · subst hc
      rfl
    · rw [if_neg hc, byteSize_replicate_space]
      rfl

namespace Sections

/-- The sections of pieces. The failure is the byte offset of an opening tag that is not closed, and
whether it opens a script. -/
def ofPieces : List (Char ⊕ Region) → Except (Nat × Bool) Sections
  | [] => .ok ⟨[], [], []⟩
  | .inl c :: rest =>
    match ofPieces rest with
    | .ok s => .ok { s with markup := c :: s.markup }
    | .error (offset, isScript) => .error (c.utf8Size + offset, isScript)
  | .inr (.closed block) :: rest =>
    match ofPieces rest with
    | .ok s =>
      let markup := blank block.text ++ s.markup
      if Block.namesScript block.name then
        .ok { s with script := block.body ++ '\n' :: s.script, markup := markup }
      else .ok { s with styles := block.body ++ '\n' :: s.styles, markup := markup }
    | .error (offset, isScript) => .error (Text.byteSize block.text + offset, isScript)
  | .inr (.unclosed isScript _) :: _ => .error (0, isScript)

/-- The message for a block that is not closed. -/
def unclosedText (isScript : Bool) : String :=
  (if isScript then "<script>" else "<style>") ++ " block is not closed"

/-- The sections of a source. -/
def split (source filename : String) : Except Diagnostic Sections :=
  match ofPieces (Text.pieces Region.pattern source.toList) with
  | .ok s => .ok s
  | .error (offset, isScript) =>
    .error (Diagnostic.at (unclosedText isScript) filename source offset)

end Sections

end LiveBundle.Component
