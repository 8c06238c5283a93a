import LiveBundle.Proofs.ModuleId
import LiveBundle.Web.Url
import Mathlib.Data.List.Basic

/-!
# References of web pages stay on the web

A path that is followed from an `http` or `https` URL leads to a URL with the same scheme, whatever
stands in the URL and in the path.

* `Url.IsWeb` says that a URL is one of the web, `Url.isRemote_text` that this can be seen in its
  text;
* `Url.parse_isWeb`: what is read from a text that starts like a web address is one;
* `Url.join_isWeb`: so is what a path means, seen from there.
-/

namespace LiveBundle

namespace Specifier

/-- Two characters can start a path. -/
lemma head_of_path {specifier : String}
    (h : (isRelative specifier || Text.hasPrefix "/" specifier) = true) :
    ∃ c rest, specifier.toList = c :: rest ∧ (c = '.' ∨ c = '/') := by
  rw [isRelative, Bool.or_eq_true, Bool.or_eq_true] at h
  rcases h with (h | h) | h <;> obtain ⟨t, rfl⟩ := Text.hasPrefix_iff.mp h
  · exact ⟨'.', '/' :: t.toList, String.toList_append, .inl rfl⟩
  · exact ⟨'.', '.' :: '/' :: t.toList, String.toList_append, .inl rfl⟩
  · exact ⟨'/', t.toList, String.toList_append, .inr rfl⟩

end Specifier

namespace Web.Url

/-- The schemes of web pages. -/
def webSchemes : List (List Char) := [['h', 't', 't', 'p'], ['h', 't', 't', 'p', 's']]

/-- The URL of a web page: its text starts with the scheme and the two slashes of an authority. -/
structure IsWeb (u : Url) : Prop where
  scheme : u.scheme ∈ webSchemes
  authority : u.authority.isSome
  path : ∃ parts, u.path = .segments parts

variable {u base : Url} {s : List Char}

lemma kindOf_webSchemes {scheme : List Char} (h : scheme ∈ webSchemes) : kindOf scheme = .web := by
  simp only [webSchemes, List.mem_cons, List.not_mem_nil, or_false] at h
  rcases h with rfl | rfl <;> decide

/-- A text starts like a web address when it starts with a scheme of web pages. -/
lemma isRemote_iff {text : String} : Specifier.isRemote text = true ↔
    ∃ scheme ∈ webSchemes, ∃ rest, text.toList = scheme ++ ':' :: '/' :: '/' :: rest := by
  simp only [Specifier.isRemote, Bool.or_eq_true, Text.hasPrefix_iff, webSchemes, List.mem_cons,
    List.not_mem_nil, or_false]
  constructor
  · rintro (⟨rest, rfl⟩ | ⟨rest, rfl⟩)
    · exact ⟨_, .inr rfl, rest.toList, String.toList_append⟩
    · exact ⟨_, .inl rfl, rest.toList, String.toList_append⟩
  · rintro ⟨scheme, rfl | rfl, rest, hrest⟩
    · refine .inr ⟨String.ofList rest, String.toList_injective ?_⟩
      simpa using hrest
    · refine .inl ⟨String.ofList rest, String.toList_injective ?_⟩
      simpa using hrest

/-- The text of a web page's URL shows that it is one. -/
lemma isRemote_text (h : u.IsWeb) : Specifier.isRemote u.text = true := by
  obtain ⟨authority, hauthority⟩ := Option.isSome_iff_exists.mp h.authority
  refine isRemote_iff.mpr ⟨u.scheme, h.scheme, ?_⟩
  simp only [text, hauthority, Option.map_some, Option.getD_some, authorityText,
    String.toList_ofList, List.cons_append, List.append_assoc]
  exact ⟨_, rfl⟩

/-! ## Reading -/

/-- What precedes everything that is passed over stays. -/
lemma normalInput_append {p : List Char} (hp : ∀ c ∈ p, 0x20 < c.toNat) (hne : p ≠ [])
    (t : List Char) : ∃ rest, normalInput (p ++ t) = p ++ rest := by
  have hblank : ∀ c ∈ p, ¬ decide (c.toNat ≤ 0x20) = true := fun c hc => by
    simpa using hp c hc
  -- Neither end of the prefix is trimmed: its first character stops one search, its last the other.
  have hfront : (p ++ t).dropWhile (·.toNat ≤ 0x20) = p ++ t := by
    obtain ⟨c, cs, rfl⟩ := List.exists_cons_of_ne_nil hne
    exact List.dropWhile_cons_of_neg (hblank c List.mem_cons_self)
  have hself : p.reverse.dropWhile (·.toNat ≤ 0x20) = p.reverse := by
    obtain ⟨c, cs, hrev⟩ := List.exists_cons_of_ne_nil (List.reverse_ne_nil_iff.mpr hne)
    rw [hrev]
    refine List.dropWhile_cons_of_neg (hblank c (List.mem_reverse.mp ?_))
    rw [hrev]
    exact List.mem_cons_self
  have hback : ((p ++ t).reverse.dropWhile (·.toNat ≤ 0x20)).reverse =
      p ++ (t.reverse.dropWhile (·.toNat ≤ 0x20)).reverse := by
    rw [List.reverse_append, List.dropWhile_append]
    split
    · rename_i hempty
      rw [hself, List.isEmpty_iff.mp hempty, List.reverse_reverse, List.reverse_nil,
        List.append_nil]
    · rw [List.reverse_append, List.reverse_reverse]
  have hkept : p.filter (fun c => c != '\t' && c != '\n' && c != '\r') = p := by
    refine List.filter_eq_self.mpr fun c hc => ?_
    have hc := hp c hc
    have hne : ∀ d : Char, d.toNat ≤ 0x20 → (c != d) = true := fun d hd => by
      rw [bne_iff_ne]
      rintro rfl
      omega
    rw [hne '\t' (by decide), hne '\n' (by decide), hne '\r' (by decide)]
    rfl
  unfold normalInput
  simp only [hfront, hback, List.filter_append, hkept]
  exact ⟨_, rfl⟩

/-- A web address has the scheme that it starts with. -/
lemma scheme?_web {scheme : List Char} (h : scheme ∈ webSchemes) (rest : List Char) :
    scheme? (scheme ++ ':' :: rest) = some (scheme, rest) := by
  simp only [webSchemes, List.mem_cons, List.not_mem_nil, or_false] at h
  rcases h with rfl | rfl <;> rfl

/-- A scheme starts with a letter. -/
lemma scheme?_eq_none {c : Char} (hc : c.isAlpha = false) (rest : List Char) :
    scheme? (c :: rest) = none := by
  unfold scheme?
  simp only [hc]
  split <;> rfl

/-- What is read behind the slashes of a web scheme is the URL of a web page. -/
lemma readBehindSlashes_isWeb {scheme : List Char} (hscheme : scheme ∈ webSchemes)
    (h : readBehindSlashes scheme s = .ok u) : u.IsWeb := by
  unfold readBehindSlashes at h
  cases hread : readAuthority scheme (splitAuthority (kindOf scheme) s).1 with
  | error e =>
    simp only [hread] at h
    cases h
  | ok authority =>
    simp only [hread] at h
    cases h
    exact ⟨hscheme, rfl, _, rfl⟩

/-- What is read from a text that starts like a web address is the URL of a web page. -/
theorem parse_isWeb {text : String} (hremote : Specifier.isRemote text = true)
    (h : parse text = .ok u) : u.IsWeb := by
  obtain ⟨scheme, hscheme, rest, htext⟩ := isRemote_iff.mp hremote
  have hkept : ∀ c ∈ scheme ++ [':', '/', '/'], 0x20 < c.toNat := by
    simp only [webSchemes, List.mem_cons, List.not_mem_nil, or_false] at hscheme
    rcases hscheme with rfl | rfl <;> simp
  obtain ⟨rest', hnormal⟩ : ∃ rest',
      normalInput text.toList = scheme ++ ':' :: '/' :: '/' :: rest' := by
    rw [htext]
    simpa using normalInput_append hkept (by simp) rest
  rw [parse, hnormal, scheme?_web hscheme] at h
  simp only [kindOf_webSchemes hscheme] at h
  exact readBehindSlashes_isWeb hscheme h

/-! ## Following -/

lemma withPath_isWeb (h : base.IsWeb) (start : List (List Char)) (s : List Char) :
    (withPath base start s).IsWeb := by
  unfold withPath
  exact ⟨h.scheme, h.authority, _, rfl⟩

lemma followPath_isWeb (h : base.IsWeb) (hu : followPath base s = .ok u) : u.IsWeb := by
  have hkind : kindOf base.scheme = .web := kindOf_webSchemes h.scheme
  unfold followPath at hu
  simp only [hkind] at hu
  split at hu
  · split at hu
    · split at hu
      · split at hu
        · -- Slashes in front of a host; the scheme stays.
          rw [if_neg (by decide)] at hu
          split at hu <;> exact readBehindSlashes_isWeb h.scheme hu
        · cases hu
          exact withPath_isWeb h _ _
      · cases hu
        exact withPath_isWeb h _ _
    · cases hu
      exact withPath_isWeb h _ _
  · cases hu
    exact ⟨h.scheme, h.authority, h.path⟩

/-- A path is followed as such. Its first character starts no scheme and marks neither a query nor a
fragment. -/
lemma join_path {reference : String} (h : base.IsWeb)
    (hpath : (Specifier.isRelative reference || Text.hasPrefix "/" reference) = true) :
    ∃ s, join base reference = followPath base s := by
  obtain ⟨parts, hparts⟩ := h.path
  obtain ⟨c, rest, hreference, hc⟩ := Specifier.head_of_path hpath
  obtain ⟨rest', hnormal⟩ : ∃ rest', normalInput reference.toList = c :: rest' := by
    rw [hreference]
    exact normalInput_append (p := [c]) (by rcases hc with rfl | rfl <;> simp)
      (List.cons_ne_nil _ _) rest
  have hscheme : scheme? (c :: rest') = none :=
    scheme?_eq_none (by rcases hc with rfl | rfl <;> decide) rest'
  refine ⟨c :: rest', ?_⟩
  rw [join, hnormal]
  simp only [hscheme, hparts]
  rcases hc with rfl | rfl <;> rfl

/-- What a path means, seen from the URL of a web page, is the URL of a web page. -/
theorem join_isWeb {reference : String} (h : base.IsWeb)
    (hpath : (Specifier.isRelative reference || Text.hasPrefix "/" reference) = true)
    (hu : join base reference = .ok u) : u.IsWeb := by
  obtain ⟨s, hs⟩ := join_path h hpath
  exact followPath_isWeb h (hs ▸ hu)

end Web.Url

end LiveBundle
