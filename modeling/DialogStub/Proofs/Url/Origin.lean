import DialogStub.Url.Basic
import Mathlib.Data.List.TakeWhile

/-!
# Addresses of one server

* `Url.Origin` — the start of an address: a scheme of the web, and the host with its number;
* `Url.parse_origin` — an address with such a start leads to the path behind it.

The authority is any text that spells a host; of the path it is only asked that it is written as it
is kept.
-/

namespace DialogStub.Url

/-- The start of an address: a scheme of the web, and a text that spells a host. -/
structure Origin (scheme authority : String) : Prop where
  web : scheme = "http" ∨ scheme = "https"
  plain : ∀ c ∈ authority.toList, c ∉ ['/', '\\', '?', '#', '\t', '\n', '\x0d']
  known : (authority? scheme authority.toList).isSome = true

instance (scheme authority : String) : Decidable (Origin scheme authority) :=
  decidable_of_iff ((scheme = "http" ∨ scheme = "https") ∧
      authority.toList.all (fun c => c ∉ ['/', '\\', '?', '#', '\t', '\n', '\x0d']) ∧
      (authority? scheme authority.toList).isSome = true)
    ⟨fun ⟨web, plain, known⟩ => ⟨web, by simpa using plain, known⟩,
      fun ⟨web, plain, known⟩ => ⟨web, by simpa using plain, known⟩⟩

/-- A path that is written as it is kept. -/
structure PlainPath (path : String) : Prop where
  slash : ∃ rest, path.toList = '/' :: rest
  plain : ∀ c ∈ path.toList, 0x20 < c.toNat ∧ c ≠ '?' ∧ c ≠ '#'
  kept : pathAfterHost true path.toList = path

/-! ### Parts of a text -/

/-- What stands before the first character of another kind. -/
theorem takeWhile_stop {p : Char → Bool} {cs ds : List Char} {d : Char}
    (h : ∀ c ∈ cs, p c = true) (hd : p d = false) : (cs ++ d :: ds).takeWhile p = cs := by
  rw [List.takeWhile_append_of_pos h, List.takeWhile_cons_of_neg (by simp [hd]), List.append_nil]

/-- Nothing is left out before a character that does not count. -/
theorem dropWhile_of_head {p : Char → Bool} {cs : List Char} (h : ∀ c ∈ cs.head?, p c = false) :
    cs.dropWhile p = cs := by
  cases cs with
  | nil => rfl
  | cons c cs => rw [List.dropWhile_cons_of_neg (by simp [h c rfl])]

/-- A text without the mark is not split. -/
theorem splitFirst_of_not_mem {mark : Char} {cs : List Char} (h : mark ∉ cs) :
    splitFirst mark cs = (cs, none) := by
  have htake : cs.takeWhile (· ≠ mark) = cs :=
    List.takeWhile_eq_self_iff.mpr fun c hc => by simpa using ne_of_mem_of_not_mem hc h
  unfold splitFirst
  rw [htake]
  dsimp only
  rw [List.drop_length]

/-- Nothing is to be cleaned where the ends are visible and no tab or line break is inside. -/
theorem clean_eq {cs : List Char} (hfirst : ∀ c ∈ cs.head?, 0x20 < c.toNat)
    (hlast : ∀ c ∈ cs.getLast?, 0x20 < c.toNat) (h : ∀ c ∈ cs, c ∉ ['\t', '\n', '\x0d']) :
    clean cs = cs := by
  have hfront : cs.dropWhile (·.toNat ≤ 0x20) = cs :=
    dropWhile_of_head fun c hc => by simpa using hfirst c hc
  have hback : cs.reverse.dropWhile (·.toNat ≤ 0x20) = cs.reverse :=
    dropWhile_of_head fun c hc => by simpa using hlast c (by simpa using hc)
  unfold clean
  rw [hfront]
  dsimp only
  rw [hback, List.reverse_reverse, List.filter_eq_self]
  intro c hc
  simpa using h c hc

/-! ### Addresses -/

/-- A scheme of the web ends at its colon. -/
theorem scheme?_web {scheme : String} (h : scheme = "http" ∨ scheme = "https") (rest : List Char) :
    scheme? (scheme.toList ++ ':' :: rest) = some (scheme, rest) := by
  rcases h with rfl | rfl <;> rfl

variable {scheme authority path : String}

namespace Origin

/-- The text of an authority has a first character, and it is no slash. -/
theorem exists_cons (h : Origin scheme authority) :
    ∃ c cs, authority.toList = c :: cs ∧ isSlash true c = false := by
  cases hauthority : authority.toList with
  | nil =>
    have hknown := h.known
    rw [hauthority] at hknown
    rcases h.web with rfl | rfl <;> cases hknown
  | cons c cs =>
    have hplain := h.plain c (by simp [hauthority])
    simp only [List.mem_cons, not_or] at hplain
    exact ⟨c, cs, rfl, by simp [isSlash, hplain.1, hplain.2.1]⟩

/-- No slash is in an authority. -/
theorem not_slash (h : Origin scheme authority) :
    ∀ c ∈ authority.toList, (!isSlash true c) = true := by
  intro c hc
  have hplain := h.plain c hc
  simp only [List.mem_cons, not_or] at hplain
  simp [isSlash, hplain.1, hplain.2.1]

/-- No query and no fragment begin in an authority. -/
theorem not_mark (h : Origin scheme authority) : ∀ c ∈ authority.toList, c ≠ '?' ∧ c ≠ '#' := by
  intro c hc
  have hplain := h.plain c hc
  simp only [List.mem_cons, not_or] at hplain
  exact ⟨hplain.2.2.1, hplain.2.2.2.1⟩

/-- No tab and no line break is in an authority. -/
theorem not_break (h : Origin scheme authority) :
    ∀ c ∈ authority.toList, c ∉ ['\t', '\n', '\x0d'] := by
  intro c hc hmem
  exact h.plain c hc (List.mem_append_right ['/', '\\', '?', '#'] hmem)

/-- What stands behind the colon of the scheme is host, number and path. -/
theorem hierarchy?_eq (h : Origin scheme authority) (hpath : PlainPath path) :
    ∃ host number, hierarchy? scheme ('/' :: '/' :: (authority.toList ++ path.toList)) =
      some (some host, number, path) := by
  obtain ⟨⟨host, number⟩, hknown⟩ := Option.isSome_iff_exists.mp h.known
  obtain ⟨c, cs, hauthority, hc⟩ := h.exists_cons
  obtain ⟨rest, hslash⟩ := hpath.slash
  have hfile : scheme ≠ fileScheme := by
    rcases h.web with rfl | rfl <;> decide
  have hspecial : isSpecial scheme = true := by
    rcases h.web with rfl | rfl <;> decide
  have hdrop : ('/' :: '/' :: (authority.toList ++ path.toList)).dropWhile (isSlash true)
      = authority.toList ++ path.toList := by
    rw [List.dropWhile_cons_of_pos (by decide), List.dropWhile_cons_of_pos (by decide)]
    exact dropWhile_of_head fun x hx => by
      rw [hauthority] at hx
      cases hx
      exact hc
  -- The authority ends at the slash of the path.
  have htake : (authority.toList ++ path.toList).takeWhile (fun c => !isSlash true c)
      = authority.toList := by
    rw [hslash]
    exact takeWhile_stop h.not_slash (by decide)
  refine ⟨host, number, ?_⟩
  rw [hierarchy?, if_neg hfile, if_pos hspecial, hdrop, withHost, hspecial]
  rw [htake, hknown, List.drop_left, hpath.kept]

/-- There is nothing to clean. -/
theorem clean_eq (h : Origin scheme authority) (hpath : PlainPath path) :
    clean (scheme.toList ++ ':' :: '/' :: '/' :: (authority.toList ++ path.toList))
      = scheme.toList ++ ':' :: '/' :: '/' :: (authority.toList ++ path.toList) := by
  refine Url.clean_eq (fun c hc => ?_) (fun c hc => ?_) (fun c hc => ?_)
  · -- The address begins with its scheme.
    have hfirst : c = 'h' := by
      rcases h.web with rfl | rfl <;> exact (Option.some.inj hc).symm
    rw [hfirst]
    decide
  · -- It ends with its path.
    obtain ⟨rest, hslash⟩ := hpath.slash
    have hne : path.toList ≠ [] := by simp [hslash]
    have hsplit : scheme.toList ++ ':' :: '/' :: '/' :: (authority.toList ++ path.toList)
        = (scheme.toList ++ ':' :: '/' :: '/' :: authority.toList) ++ path.toList := by simp
    rw [hsplit, List.getLast?_append, List.getLast?_eq_some_getLast hne] at hc
    cases hc
    exact (hpath.plain _ (List.getLast_mem hne)).1
  · have hparts : c ∈ scheme.toList ++ [':', '/', '/'] ∨ c ∈ authority.toList ∨
        c ∈ path.toList := by simpa [or_assoc] using hc
    rcases hparts with hc | hc | hc
    · have hscheme : ∀ x ∈ scheme.toList ++ [':', '/', '/'], x ∉ ['\t', '\n', '\x0d'] := by
        rcases h.web with rfl | rfl <;> simp
      exact hscheme c hc
    · exact h.not_break c hc
    · have hvisible : ∀ x ∈ ['\t', '\n', '\x0d'], ¬0x20 < x.toNat := by simp
      exact fun hmem => hvisible c hmem (hpath.plain c hc).1

end Origin

/-- **Addresses of one server.** An address with the start of a server leads to the server, with the
    path behind this start. -/
theorem parse_origin (h : Origin scheme authority) (hpath : PlainPath path) :
    ∃ u, parse (scheme ++ "://" ++ authority ++ path) = some u ∧ u.isWeb = true ∧
      u.path = path := by
  obtain ⟨host, number, hhierarchy⟩ := h.hierarchy?_eq hpath
  have htext : (scheme ++ "://" ++ authority ++ path).toList
      = scheme.toList ++ ':' :: '/' :: '/' :: (authority.toList ++ path.toList) := by
    simp [String.toList_append]
  -- Neither a query nor a fragment is split off.
  have hmark : ∀ c ∈ '/' :: '/' :: (authority.toList ++ path.toList), c ≠ '?' ∧ c ≠ '#' := by
    intro c hc
    simp only [List.mem_cons, List.mem_append] at hc
    rcases hc with rfl | rfl | hc | hc
    · decide
    · decide
    · exact h.not_mark c hc
    · exact (hpath.plain c hc).2
  refine ⟨⟨scheme, some host, number, path, none, none⟩, ?_, ?_, rfl⟩
  · rw [parse, htext, h.clean_eq hpath, scheme?_web h.web]
    dsimp only
    rw [splitFirst_of_not_mem fun hc => (hmark _ hc).2 rfl]
    dsimp only
    rw [splitFirst_of_not_mem fun hc => (hmark _ hc).1 rfl]
    dsimp only
    rw [hhierarchy]
    rfl
  · rcases h.web with rfl | rfl <;> rfl

end DialogStub.Url
