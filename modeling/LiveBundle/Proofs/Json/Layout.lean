import LiveBundle.Proofs.Json.OneLine
import LiveBundle.Json.Decode

/-!
# Reading what was written

The printers of values differ in the blanks between the tokens. `Lays` says what they have in
common, and readers of records and dictionaries take what any such printer writes.

* `lays_compact`, `lays_pretty`: both printers are of this kind.
* `Reader.quoted_append`: a string is read from its written form.
* `Reader.Collects`: the members of an object, read one after the other; `Reader.object_lays` reads
  the object.
* `Reader.dict_lays`, `Reader.record_lays`: dictionaries and records.
-/

namespace LiveBundle.Json

/-! ## Printers -/

/-- All characters are passed over between tokens. -/
def Blank (cs : List Char) : Prop := ∀ c ∈ cs, Reader.isSpace c = true

/-- The members of an object up to its closing brace: each one follows the blanks `lead`, and the
brace the blanks `last`. -/
def enclosed (lead last : List Char) (pieces : List (List Char)) : List Char :=
  [','].intercalate (pieces.map (lead ++ ·)) ++ (last ++ ['\x7d'])

/-- The text of a member with blanks behind its colon. -/
def memberText (behind : List Char) (print : Json → List Char) (m : String × Json) : List Char :=
  (quote m.1).toList ++ ':' :: (behind ++ print m.2)

/-- A printer, given the number of containers around a value, puts nothing but blanks between the
tokens of an object. -/
structure Lays (print : Nat → Json → List Char) : Prop where
  string : ∀ level s, print level (.string s) = (quote s).toList
  bool : ∀ level b, print level (.bool b) = (if b then "true" else "false").toList
  object : ∀ level members, ∃ lead last behind, Blank lead ∧ Blank last ∧ Blank behind ∧
    print level (.object members) =
      '\x7b' :: enclosed lead last (members.map (memberText behind (print (level + 1))))

lemma Lays.exists_brace {print : Nat → Json → List Char} (h : Lays print) (level : Nat)
    (members : List (String × Json)) : ∃ cs, print level (.object members) = '\x7b' :: cs := by
  obtain ⟨lead, last, behind, -, -, -, htext⟩ := h.object level members
  exact ⟨_, htext⟩

lemma Blank.nil : Blank [] := fun _ h => absurd h List.not_mem_nil

lemma lays_compact : Lays fun _ v => v.compact.toList where
  string _ _ := rfl
  bool _ _ := rfl
  object _ members := by
    refine ⟨[], [], [], .nil, .nil, .nil, ?_⟩
    rw [compact, String.toList_append, String.toList_append, toList_compactMembers, enclosed]
    simp only [List.nil_append, List.map_id_fun', id_eq]
    rfl

lemma blank_newLine (level : Nat) : Blank (newLine level).toList := by
  intro c hc
  simp only [newLine, Text.spaces, String.toList_append, String.toList_ofList, List.mem_append,
    List.mem_replicate] at hc
  rcases hc with hc | ⟨-, rfl⟩
  · cases List.mem_singleton.mp hc
    rfl
  · rfl

lemma toList_prettyMembers (level : Nat) (ms : List (String × Json)) (hms : ms ≠ []) :
    (newLine level).toList ++ (prettyMembers level ms).toList =
      [','].intercalate ((ms.map (memberText [' '] fun v => (v.pretty level).toList)).map
        ((newLine level).toList ++ ·)) := by
  induction ms with
  | nil => exact absurd rfl hms
  | cons m ms ih =>
    obtain ⟨k, v⟩ := m
    cases ms with
    | nil => simp [prettyMembers, memberText]
    | cons m ms =>
      rw [prettyMembers, List.map_cons, List.map_cons, List.intercalate_cons_of_ne_nil (by simp),
        ← ih (by simp)]
      simp [memberText]

lemma lays_pretty : Lays fun level v => (v.pretty level).toList where
  string _ _ := rfl
  bool _ _ := rfl
  object level members := by
    cases members with
    | nil => exact ⟨[], [], [], .nil, .nil, .nil, by simp [pretty, enclosed]⟩
    | cons m ms =>
      refine ⟨(newLine (level + 1)).toList, (newLine level).toList, [' '], blank_newLine _,
        blank_newLine _, by simp [Blank, Reader.isSpace], ?_⟩
      rw [enclosed, ← toList_prettyMembers _ _ (by simp)]
      simp [pretty]

/-! ## Strings and truth values -/

namespace Reader

variable {rest : List Char}

lemma peekToken_blank {blanks : List Char} (hblanks : Blank blanks) {c : Char}
    (hc : isSpace c = false) (cs : List Char) :
    peekToken (blanks ++ c :: cs) = .done (some c) (c :: cs) := by
  show Outcome.done _ _ = _
  rw [List.dropWhile_append_of_pos hblanks, List.dropWhile_cons_of_neg (by simp [hc])]
  rfl

/-- A control character is read from its escape. -/
lemma stringBody_escapeControl {c : Char} (hc : c.toNat < 0x20) (fuel : Nat) (rest : List Char) :
    stringBody (fuel + 1) (escapeControl c ++ rest) =
      (stringBody fuel >>= fun cs => Pure.pure (c :: cs)) rest := by
  obtain ⟨n, hn, rfl⟩ : ∃ n, n < 0x20 ∧ c = Char.ofNat n := ⟨c.toNat, hc, by simp⟩
  interval_cases n <;> rfl

/-- Every character is read from its written form. -/
lemma stringBody_escapeChar (c : Char) (fuel : Nat) (rest : List Char) :
    stringBody (fuel + 1) (escapeChar c ++ rest) =
      (stringBody fuel >>= fun cs => Pure.pure (c :: cs)) rest := by
  unfold escapeChar
  split
  · rename_i hquote
    subst hquote
    rfl
  · rename_i hquote
    split
    · rename_i hslash
      subst hslash
      rfl
    · rename_i hslash
      split
      · rename_i hc
        exact stringBody_escapeControl hc fuel rest
      · rename_i hc
        have hpeek : peekInString (c :: rest) = .done c (c :: rest) := rfl
        rw [List.singleton_append, stringBody, bind_of_done hpeek]
        simp only [if_neg hquote, if_neg hslash, if_neg hc]
        rfl

lemma stringBody_append (s : List Char) {fuel : Nat} (hfuel : s.length < fuel) :
    stringBody fuel (s.flatMap escapeChar ++ '"' :: rest) = .done s rest := by
  induction s generalizing fuel with
  | nil =>
    obtain ⟨fuel, rfl⟩ := Nat.exists_eq_succ_of_ne_zero (Nat.ne_zero_of_lt hfuel)
    rfl
  | cons c cs ih =>
    obtain ⟨fuel, rfl⟩ := Nat.exists_eq_succ_of_ne_zero (Nat.ne_zero_of_lt hfuel)
    rw [List.flatMap_cons, List.append_assoc, stringBody_escapeChar,
      bind_of_done (ih (Nat.lt_of_succ_lt_succ hfuel))]
    rfl

/-- A string is read from its written form. -/
lemma quoted_append (s : String) : quoted ((quote s).toList ++ rest) = .done s rest := by
  rw [toList_quote, List.cons_append, List.append_assoc, quoted, bind_of_done (advance_cons _ _)]
  have hlength : s.toList.length ≤ (s.toList.flatMap escapeChar).length := length_le_flatMap _
  have hbody : stringBody ((s.toList.flatMap escapeChar ++ ('"' :: rest)).length + 1)
      (s.toList.flatMap escapeChar ++ '"' :: rest) = .done s.toList rest := by
    refine stringBody_append s.toList ?_
    simp only [List.length_append]
    omega
  show (stringBody _ >>= fun body => Pure.pure (String.ofList body)) _ = _
  rw [List.singleton_append, bind_of_done hbody, String.ofList_toList]
  rfl

variable {print : Nat → Json → List Char} {blanks : List Char} {level : Nat}

lemma string_lays (h : Lays print) (hblanks : Blank blanks) (s : String) :
    string (blanks ++ (print level (.string s) ++ rest)) = .done s rest := by
  have hquoted : quoted ((quote s).toList ++ rest) = .done s rest := quoted_append s
  rw [h.string]
  rw [toList_quote] at hquoted ⊢
  rw [string, List.cons_append, bind_of_done (peekToken_blank hblanks rfl _)]
  exact hquoted

lemma bool_lays (h : Lays print) (hblanks : Blank blanks) (b : Bool) :
    bool (blanks ++ (print level (.bool b) ++ rest)) = .done b rest := by
  rw [h.bool, bool]
  cases b with
  | false =>
    show (peekToken >>= _) (blanks ++ 'f' :: 'a' :: 'l' :: 's' :: 'e' :: rest) = _
    rw [bind_of_done (peekToken_blank hblanks rfl _)]
    rfl
  | true =>
    show (peekToken >>= _) (blanks ++ 't' :: 'r' :: 'u' :: 'e' :: rest) = _
    rw [bind_of_done (peekToken_blank hblanks rfl _)]
    rfl

/-! ## Objects -/

variable {α β σ : Type}

/-- Reading the members of an object one after the other, from their colon on. -/
inductive Collects (print : Json → List Char) (member : String → α → Reader α) :
    α → List (String × Json) → α → Prop
  | nil (acc : α) : Collects print member acc [] acc
  | cons {acc acc' all : α} {key : String} {v : Json} {ms : List (String × Json)}
      (hmember : ∀ blanks rest, Blank blanks →
        member key acc (':' :: (blanks ++ (print v ++ rest))) = .done acc' rest)
      (hmore : Collects print member acc' ms all) : Collects print member acc ((key, v) :: ms) all

lemma hasMember_key {first : Bool} {blanks : List Char} (hblanks : Blank blanks) (cs : List Char) :
    hasMember first ((if first then [] else [',']) ++ (blanks ++ '"' :: cs)) =
      .done true ('"' :: cs) := by
  cases first with
  | true =>
    show (peekToken >>= _) (blanks ++ '"' :: cs) = _
    rw [bind_of_done (peekToken_blank hblanks rfl _)]
    rfl
  | false =>
    show (peekToken >>= _) (',' :: (blanks ++ '"' :: cs)) = _
    rw [bind_of_done (peekToken_cons rfl _)]
    show (advance >>= fun _ => peekToken >>= _) _ = _
    rw [bind_of_done (advance_cons _ _), bind_of_done (peekToken_blank hblanks rfl _)]
    rfl

lemma hasMember_end (first : Bool) {blanks : List Char} (hblanks : Blank blanks)
    (rest : List Char) :
    hasMember first (blanks ++ '\x7d' :: rest) = .done false ('\x7d' :: rest) := by
  rw [hasMember, bind_of_done (peekToken_blank hblanks rfl _)]
  rfl

variable {lead last behind : List Char} {member : String → α → Reader α}

/-- One member is read, and then the others. -/
lemma members_cons (first : Bool) (hlead : Blank lead) (hbehind : Blank behind)
    {write : Json → List Char} {acc acc' : α} {key : String} {v : Json}
    (hmember : ∀ blanks rest, Blank blanks →
      member key acc (':' :: (blanks ++ (write v ++ rest))) = .done acc' rest) (fuel : Nat)
    (rest : List Char) :
    members member (fuel + 1) first acc ((if first then [] else [',']) ++
        (lead ++ memberText behind write (key, v) ++ rest)) =
      members member fuel false acc' rest := by
  have hkey : lead ++ memberText behind write (key, v) ++ rest =
      lead ++ '"' :: (key.toList.flatMap escapeChar ++ ['"'] ++
        ':' :: (behind ++ (write v ++ rest))) := by
    simp [memberText, toList_quote]
  have hquoted : quoted ('"' :: (key.toList.flatMap escapeChar ++ ['"'] ++
        ':' :: (behind ++ (write v ++ rest)))) =
      .done key (':' :: (behind ++ (write v ++ rest))) := by
    rw [← List.cons_append, ← toList_quote]
    exact quoted_append key
  rw [hkey, members, bind_of_done (hasMember_key hlead _)]
  show (quoted >>= _) _ = _
  rw [bind_of_done hquoted, bind_of_done (hmember behind rest hbehind)]

/-- The members behind the first one are read up to the closing brace. -/
lemma members_more (hlead : Blank lead) (hlast : Blank last) (hbehind : Blank behind)
    {write : Json → List Char} {acc all : α} {ms : List (String × Json)}
    (h : Collects write member acc ms all) {fuel : Nat} (hfuel : ms.length < fuel)
    (rest : List Char) :
    members member fuel false acc
        (((ms.map (memberText behind write)).map (lead ++ ·)).flatMap (',' :: ·) ++
          (last ++ '\x7d' :: rest)) =
      .done all ('\x7d' :: rest) := by
  induction h generalizing fuel with
  | nil acc =>
    obtain ⟨fuel, rfl⟩ := Nat.exists_eq_succ_of_ne_zero (Nat.ne_zero_of_lt hfuel)
    rw [List.map_nil, List.map_nil, List.flatMap_nil, List.nil_append, members,
      bind_of_done (hasMember_end false hlast rest)]
    rfl
  | cons hmember hmore ih =>
    obtain ⟨fuel, rfl⟩ := Nat.exists_eq_succ_of_ne_zero (Nat.ne_zero_of_lt hfuel)
    refine Eq.trans ?_ ((members_cons false hlead hbehind hmember fuel _).trans
      (ih (Nat.lt_of_succ_lt_succ hfuel)))
    congr 1
    simp

/-- All members are read up to the closing brace. -/
lemma members_enclosed (hlead : Blank lead) (hlast : Blank last) (hbehind : Blank behind)
    {write : Json → List Char} {start all : α} {ms : List (String × Json)}
    (h : Collects write member start ms all) {fuel : Nat} (hfuel : ms.length < fuel)
    (rest : List Char) :
    members member fuel true start
        (enclosed lead last (ms.map (memberText behind write)) ++ rest) =
      .done all ('\x7d' :: rest) := by
  obtain ⟨fuel, rfl⟩ := Nat.exists_eq_succ_of_ne_zero (Nat.ne_zero_of_lt hfuel)
  cases h with
  | nil =>
    rw [members]
    show (hasMember true >>= _) ((last ++ ['\x7d']) ++ rest) = _
    rw [List.append_assoc, List.singleton_append, bind_of_done (hasMember_end true hlast rest)]
    rfl
  | cons hmember hmore =>
    have hmore := members_more hlead hlast hbehind hmore (Nat.lt_of_succ_lt_succ hfuel) rest
    refine Eq.trans ?_ ((members_cons true hlead hbehind hmember fuel _).trans hmore)
    rw [enclosed, List.map_cons, List.map_cons, intercalate_cons_eq]
    congr 1
    simp

lemma length_le_enclosed (lead last : List Char) (pieces : List (List Char)) :
    pieces.length ≤ (enclosed lead last pieces).length := by
  have hcount := count_le_intercalate (pieces.map (lead ++ ·))
  rw [List.length_map] at hcount
  rw [enclosed, List.length_append, List.length_append, List.length_singleton]
  omega

lemma closing_of_done {r : Reader α} {close : Reader Unit} {s rest rest' : List Char} {a : α}
    (hr : r s = .done a rest) (hclose : close rest = .done () rest') :
    closing r close s = .done a rest' := by
  rw [closing, hr]
  dsimp only
  rw [hclose]

lemma located_of_done {r : Reader α} {s rest : List Char} {a : α} (h : r s = .done a rest) :
    located r s = .done a rest := by
  rw [located, h]

/-- An object is read when its members are. -/
lemma object_lays {print : Nat → Json → List Char} (h : Lays print) {level depth : Nat}
    {start all : α} {member : Nat → String → α → Reader α} {finish : α → Reader β} {b : β}
    {ms : List (String × Json)}
    (hmembers : Collects (print (level + 1)) (member depth) start ms all)
    (hfinish : ∀ rest, finish all rest = .done b rest) (rest : List Char) :
    object (depth + 1) start member finish (print level (.object ms) ++ rest) = .done b rest := by
  obtain ⟨lead, last, behind, hlead, hlast, hbehind, htext⟩ := h.object level ms
  rw [htext, List.cons_append, object, bind_of_done (advance_cons _ _)]
  have hlength := length_le_enclosed lead last (ms.map (memberText behind (print (level + 1))))
  rw [List.length_map] at hlength
  have hall := members_enclosed hlead hlast hbehind hmembers
    (Nat.lt_succ_of_le (hlength.trans (List.length_append ▸ Nat.le_add_right _ rest.length))) rest
  have hbody := (bind_of_done (f := finish) hall).trans (hfinish _)
  exact closing_of_done hbody rfl

/-! ## Dictionaries -/

/-- An entry behind all others is put at the end. -/
lemma insertEntry_of_forall_lt {key : String} {a : α} {entries : List (String × α)}
    (h : ∀ e ∈ entries, e.1 < key) : Dict.insertEntry key a entries = entries ++ [(key, a)] := by
  induction entries with
  | nil => rfl
  | cons e entries ih =>
    obtain ⟨he, hentries⟩ := List.forall_mem_cons.mp h
    rw [Dict.insertEntry, if_neg (String.lt_asymm he), if_pos he, ih hentries, List.cons_append]

variable {print : Nat → Json → List Char} {level depth : Nat} {item : Nat → Reader α}
  (toJson : α → Json)

/-- The entries of a dictionary are put behind those that are there already. -/
lemma collects_entries (hitem : ∀ a blanks rest, Blank blanks →
      item depth (blanks ++ (print level (toJson a) ++ rest)) = .done a rest)
    (entries : List (String × α)) (acc all : Dict α) (h : all.entries = acc.entries ++ entries) :
    Collects (print level) (fun key acc => do
      colon
      pure (acc.insert key (← item depth))) acc
      (entries.map fun e => (e.1, toJson e.2)) all := by
  induction entries generalizing acc with
  | nil =>
    rw [List.append_nil] at h
    obtain ⟨entries, hentries⟩ := acc
    obtain ⟨_, _⟩ := all
    cases h
    exact .nil _
  | cons e entries ih =>
    have hlt : ∀ e' ∈ acc.entries, e'.1 < e.1 := by
      have hascending := all.ascending
      rw [h, List.pairwise_append] at hascending
      exact fun e' he' => hascending.2.2 e' he' e List.mem_cons_self
    have hinsert : (acc.insert e.1 e.2).entries = acc.entries ++ [(e.1, e.2)] :=
      insertEntry_of_forall_lt hlt
    have hmember (blanks rest : List Char) (hblanks : Blank blanks) :
        (colon >>= fun _ => item depth >>= fun a => Pure.pure (acc.insert e.1 a))
            (':' :: (blanks ++ (print level (toJson e.2) ++ rest))) =
          .done (acc.insert e.1 e.2) rest := by
      have hcolon (cs : List Char) : colon (':' :: cs) = .done () cs := rfl
      rw [bind_of_done (hcolon _), bind_of_done (hitem e.2 blanks rest hblanks)]
      rfl
    refine .cons hmember (ih _ ?_)
    rw [h, hinsert, List.append_assoc, List.singleton_append]

/-- A dictionary is read when the values of its entries are. -/
lemma dict_lays (h : Lays print) (hitem : ∀ a blanks rest, Blank blanks →
      item depth (blanks ++ (print (level + 1) (toJson a) ++ rest)) = .done a rest)
    {blanks : List Char} (hblanks : Blank blanks) (d : Dict α) (rest : List Char) :
    dict (depth + 1) item (blanks ++
        (print level (.object (d.entries.map fun e => (e.1, toJson e.2))) ++ rest)) =
      .done d rest := by
  have hobject : object (depth + 1) Dict.empty (fun depth key acc => do
      colon
      Pure.pure (acc.insert key (← item depth))) Reader.pure
        (print level (.object (d.entries.map fun e => (e.1, toJson e.2))) ++ rest) =
      .done d rest :=
    object_lays h (collects_entries toJson hitem d.entries .empty d rfl) (fun _ => rfl) rest
  obtain ⟨cs, hcs⟩ := h.exists_brace level (d.entries.map fun e => (e.1, toJson e.2))
  rw [hcs, List.cons_append] at hobject ⊢
  refine located_of_done ?_
  rw [bind_of_done (peekToken_blank hblanks rfl _)]
  exact hobject

/-! ## Records -/

/-- A field of a record is read, and then the others. -/
lemma Collects.field {fields : List (Member σ)} {write : Json → List Char} {seen : List String}
    {x x' : σ} {key : String} {v : Json} {ms : List (String × Json)} {all : List String × σ}
    {field : Member σ} (hfield : fields.find? (·.name = key) = some field)
    (hnew : seen.contains key = false)
    (hread : ∀ blanks rest, Blank blanks →
      field.read depth x (blanks ++ (write v ++ rest)) = .done x' rest)
    (hmore : Collects write (recordMember fields depth) (key :: seen, x') ms all) :
    Collects write (recordMember fields depth) (seen, x) ((key, v) :: ms) all := by
  refine .cons (fun blanks rest hblanks => ?_) hmore
  have hcolon (cs : List Char) : colon (':' :: cs) = .done () cs := rfl
  simp only [recordMember, hfield, hnew, Bool.false_eq_true, if_false]
  rw [bind_of_done (hcolon _), bind_of_done (hread blanks rest hblanks)]
  rfl

/-- A record is read when its fields are, and none of the required ones is missing. -/
lemma record_lays (h : Lays print) {name : String} {fields : List (Member σ)} {start x : σ}
    {seen : List String} {ms : List (String × Json)}
    (hmembers : Collects (print (level + 1)) (recordMember fields depth) ([], start) ms (seen, x))
    (hcomplete : (fields.find? fun field => field.required && !seen.contains field.name) = none)
    {blanks : List Char} (hblanks : Blank blanks) (rest : List Char) :
    record name fields start (depth + 1) (blanks ++ (print level (.object ms) ++ rest)) =
      .done x rest := by
  have hfinish (rest : List Char) : complete fields (seen, x) rest = .done x rest := by
    rw [complete, hcomplete]
    rfl
  have hobject := object_lays h hmembers hfinish rest
  obtain ⟨cs, hcs⟩ := h.exists_brace level ms
  rw [hcs, List.cons_append] at hobject ⊢
  refine located_of_done ?_
  rw [bind_of_done (peekToken_blank hblanks rfl _)]
  exact hobject

end Reader

end LiveBundle.Json
