import LiveBundle.Proofs.Json.Layout
import LiveBundle.Registry.Contract

/-!
# The written form of a registry, read back

A registry that is written and read again is the same one: every path, every field of every entry
and the order of the paths.

* `readEntry_lays`, `read_lays`: an entry and a registry are read from their written form, whatever
  the blanks between the tokens.
* `decode_written`: both written forms, one on one line and one over several.
-/

namespace LiveBundle.Registry

open Json (Lays Blank lays_compact lays_pretty)
open Json.Reader

variable {print : Nat → Json → List Char} {level depth : Nat} {blanks : List Char}

/-- The fields of an entry are read one after the other. -/
lemma collects_entry (h : Lays print) (e : FileEntry) :
    Collects (print level) (recordMember entryFields depth) ([], blankEntry) e.toJson
      ((entryFields.map (·.name)).reverse, e) := by
  have hstring (s : String) (put : String → FileEntry) (blanks rest : List Char)
      (hblanks : Blank blanks) :
      (string >>= fun s => Pure.pure (put s)) (blanks ++ (print level (.string s) ++ rest)) =
        .done (put s) rest := by
    rw [bind_of_done (string_lays h hblanks s)]
    rfl
  have hbool (b : Bool) (put : Bool → FileEntry) (blanks rest : List Char)
      (hblanks : Blank blanks) :
      (bool >>= fun b => Pure.pure (put b)) (blanks ++ (print level (.bool b) ++ rest)) =
        .done (put b) rest := by
    rw [bind_of_done (bool_lays h hblanks b)]
    rfl
  refine .field rfl rfl (hstring e.name _) ?_
  refine .field rfl rfl (hstring e.path _) ?_
  refine .field rfl rfl (hstring e.source _) ?_
  refine .field rfl rfl (hstring e.extension _) ?_
  refine .field rfl rfl (hbool e.isComponent _) ?_
  refine .field rfl rfl (hbool e.isBinary _) ?_
  refine .field rfl rfl (hstring e.directory _) ?_
  exact .nil _

lemma readEntry_lays (h : Lays print) (hblanks : Blank blanks) (e : FileEntry) (rest : List Char) :
    readEntry (depth + 1) (blanks ++ (print level (.object e.toJson) ++ rest)) = .done e rest :=
  record_lays h (collects_entry h e) rfl hblanks rest

/-- A registry is read from its written form. -/
lemma read_lays (h : Lays print) (r : Registry) (rest : List Char) :
    read (depth + 3) (print level r.toJson ++ rest) = .done r rest := by
  have hfiles (blanks rest : List Char) (hblanks : Blank blanks) :
      (dict (depth + 2) readEntry >>= fun files => Pure.pure (⟨files⟩ : Registry))
          (blanks ++ (print (level + 1)
            (.object (r.files.entries.map fun e => (e.1, .object e.2.toJson))) ++ rest)) =
        .done r rest := by
    have hdict : dict (depth + 2) readEntry (blanks ++ (print (level + 1)
        (.object (r.files.entries.map fun e => (e.1, .object e.2.toJson))) ++ rest)) =
          .done r.files rest :=
      dict_lays (fun e : FileEntry => .object e.toJson) h
        (fun e _ rest hblanks => readEntry_lays h hblanks e rest) hblanks r.files rest
    rw [bind_of_done hdict]
    rfl
  exact record_lays h (.field rfl rfl hfiles (.nil _)) rfl .nil rest

/-- What a printer writes is decoded to the registry. -/
lemma decode_of_lays (level : Nat) (h : Lays print) {text : String} {r : Registry}
    (htext : text.toList = print level r.toJson) : decode text = .ok r := by
  have hread : read Json.maxDepth text.toList = .done r [] := by
    rw [htext, ← List.append_nil (print level r.toJson)]
    exact read_lays h r []
  rw [decode, whole, Json.Reader.bind, hread]
  rfl

/-- A registry that is written on one line or over several lines is read back, with its paths in
their order and all fields of its entries. -/
theorem decode_written (r : Registry) :
    decode r.encode = .ok r ∧ decode r.encodePretty = .ok r :=
  ⟨decode_of_lays 0 lays_compact rfl, decode_of_lays 0 lays_pretty rfl⟩

end LiveBundle.Registry
