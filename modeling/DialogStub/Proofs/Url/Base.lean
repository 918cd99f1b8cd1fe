import DialogStub.Proofs.Url.Origin

/-!
# Addresses with one base

* `Url.authorityText` — the characters that spell the host of an address of the web;
* `Url.isWeb_iff` — a text spells an address of the web if its scheme is one of the web and these
  characters spell a host;
* `Url.isWeb_below` — what is below one directory is of the web as a whole or not at all.

The scheme, the host and its number end before the last slash of an address, wherever they stand,
so that they do not depend on what is behind it.
-/

namespace DialogStub.Url

/-! ### Parts of a text -/

/-- Nothing is taken from behind a character that does not count. -/
theorem takeWhile_append_stop {p : Char → Bool} {d : Char} (hd : p d = false)
    (cs ds : List Char) : (cs ++ d :: ds).takeWhile p = cs.takeWhile p := by
  induction cs with
  | nil => rw [List.nil_append, List.takeWhile_cons_of_neg (by simp [hd])]; rfl
  | cons c cs ih =>
    rw [List.cons_append]
    by_cases hc : p c = true
    · rw [List.takeWhile_cons_of_pos hc, List.takeWhile_cons_of_pos hc, ih]
    · rw [List.takeWhile_cons_of_neg hc, List.takeWhile_cons_of_neg hc]

/-- Where something is left of a text, it is left of a longer one as well. -/
theorem dropWhile_append_of_mem {p : Char → Bool} {cs : List Char} {c : Char} (hc : c ∈ cs)
    (hp : p c = false) (ds : List Char) : (cs ++ ds).dropWhile p = cs.dropWhile p ++ ds := by
  have hne : (cs.dropWhile p).isEmpty = false := by
    rw [List.isEmpty_eq_false_iff]
    intro hnil
    rw [List.dropWhile_eq_nil_iff.mp hnil c hc] at hp
    cases hp
  rw [List.dropWhile_append, hne]
  rfl

/-- The part before the first mark. -/
theorem splitFirst_fst (mark : Char) (cs : List Char) :
    (splitFirst mark cs).1 = cs.takeWhile (· ≠ mark) := by
  unfold splitFirst
  dsimp only
  split <;> rfl

/-! ### Hosts -/

/-- The characters that spell the host and its number, behind the colon of a scheme of the web. -/
def authorityText (rest : List Char) : List Char :=
  (((rest.takeWhile (· ≠ '#')).takeWhile (· ≠ '?')).dropWhile (isSlash true)).takeWhile
    (fun c => !isSlash true c)

/-- They end at the next slash. -/
theorem authorityText_append {cs : List Char} {c : Char} (hc : c ∈ cs)
    (hslash : isSlash true c = false) (tail : List Char) :
    authorityText (cs ++ '/' :: tail) = authorityText cs := by
  unfold authorityText
  rw [List.takeWhile_takeWhile, List.takeWhile_takeWhile]
  by_cases hall : ∀ x ∈ cs, decide (x ≠ '?') = true ∧ decide (x ≠ '#') = true
  · have hwhole : ∀ x ∈ cs, decide (decide (x ≠ '?') = true ∧ decide (x ≠ '#') = true) = true :=
      fun x hx => decide_eq_true (hall x hx)
    rw [List.takeWhile_append_of_pos hwhole, List.takeWhile_eq_self_iff.mpr hwhole,
      List.takeWhile_cons_of_pos (by decide), dropWhile_append_of_mem hc hslash]
    exact takeWhile_append_stop (by decide) _ _
  · -- A mark before the slash cuts all of the rest off.
    have hcut : (cs.takeWhile fun x =>
        decide (decide (x ≠ '?') = true ∧ decide (x ≠ '#') = true)).length ≠ cs.length := by
      intro heq
      refine hall fun x hx => ?_
      have hself := List.IsPrefix.eq_of_length (List.takeWhile_prefix _) heq
      exact of_decide_eq_true (List.takeWhile_eq_self_iff.mp hself x hx)
    rw [List.takeWhile_append, if_neg hcut]

/-- With a scheme of the web, there is a host if these characters spell one. -/
theorem hierarchy?_web {scheme : String} (hweb : scheme = "http" ∨ scheme = "https")
    (rest : List Char) :
    ∃ path, hierarchy? scheme (splitFirst '?' (splitFirst '#' rest).1).1 =
      (authority? scheme (authorityText rest)).map fun (host, number) =>
        (some host, number, path) := by
  have hfile : scheme ≠ fileScheme := by
    rcases hweb with rfl | rfl <;> decide
  have hspecial : isSpecial scheme = true := by
    rcases hweb with rfl | rfl <;> decide
  have htext : ((splitFirst '?' (splitFirst '#' rest).1).1.dropWhile (isSlash true)).takeWhile
      (fun c => !isSlash true c) = authorityText rest := by
    rw [splitFirst_fst, splitFirst_fst]
    rfl
  unfold hierarchy? withHost
  rw [if_neg hfile, if_pos hspecial, hspecial]
  dsimp only
  rw [htext]
  generalize pathAfterHost true _ = path
  refine ⟨path, ?_⟩
  cases authority? scheme (authorityText rest) <;> rfl

/-- **Addresses of the web.** The scheme is one of the web, and there is a host. -/
theorem isWeb_iff (s : String) :
    (∃ u, parse s = some u ∧ u.isWeb = true) ↔
      ∃ scheme rest, scheme? (clean s.toList) = some (scheme, rest) ∧
        (scheme = "http" ∨ scheme = "https") ∧
        (authority? scheme (authorityText rest)).isSome = true := by
  constructor
  · rintro ⟨u, hparse, hweb⟩
    unfold parse at hparse
    cases hscheme : scheme? (clean s.toList) with
    | none => rw [hscheme] at hparse; cases hparse
    | some found =>
      obtain ⟨scheme, rest⟩ := found
      rw [hscheme] at hparse
      dsimp only at hparse
      cases hplace : hierarchy? scheme (splitFirst '?' (splitFirst '#' rest).1).1 with
      | none => rw [hplace] at hparse; cases hparse
      | some place =>
        obtain ⟨host, number, path⟩ := place
        rw [hplace] at hparse
        obtain rfl := Option.some.inj hparse
        have hname : scheme = "http" ∨ scheme = "https" := by
          simp only [isWeb, Bool.and_eq_true, Bool.or_eq_true, decide_eq_true_eq] at hweb
          exact hweb.1
        -- For these schemes the place is the authority, whatever the path is.
        obtain ⟨path', hmap⟩ := hierarchy?_web hname rest
        rw [hplace] at hmap
        obtain ⟨known, hknown, -⟩ := Option.map_eq_some_iff.mp hmap.symm
        exact ⟨scheme, rest, rfl, hname, Option.isSome_iff_exists.mpr ⟨known, hknown⟩⟩
  · rintro ⟨scheme, rest, hscheme, hweb, hknown⟩
    obtain ⟨⟨host, number⟩, hauthority⟩ := Option.isSome_iff_exists.mp hknown
    obtain ⟨path, hplace⟩ := hierarchy?_web hweb rest
    rw [hauthority] at hplace
    unfold parse
    rw [hscheme]
    dsimp only
    rw [hplace]
    refine ⟨_, rfl, ?_⟩
    rcases hweb with rfl | rfl <;> rfl

/-! ### Bases -/

/-- Characters that are visible stay as they are at the end of a text. -/
theorem clean_append {ds : List Char} (hne : ds ≠ []) (h : ∀ c ∈ ds, 0x20 < c.toNat)
    (cs : List Char) :
    clean (cs ++ ds) =
      (cs.dropWhile (·.toNat ≤ 0x20)).filter (fun c => c ≠ '\t' ∧ c ≠ '\n' ∧ c ≠ '\x0d') ++ ds := by
  -- Dropping from the front stops at the visible characters, and from the back it does not begin.
  have hfront : (cs ++ ds).dropWhile (·.toNat ≤ 0x20) = cs.dropWhile (·.toNat ≤ 0x20) ++ ds := by
    rw [List.dropWhile_append]
    split
    · rename_i hempty
      rw [List.isEmpty_iff.mp hempty, List.nil_append]
      exact dropWhile_of_head fun c hc => by simpa using h c (List.mem_of_mem_head? hc)
    · rfl
  have hback : (cs.dropWhile (·.toNat ≤ 0x20) ++ ds).reverse.dropWhile (·.toNat ≤ 0x20)
      = (cs.dropWhile (·.toNat ≤ 0x20) ++ ds).reverse := by
    refine dropWhile_of_head fun c hc => ?_
    rw [List.head?_reverse, List.getLast?_append, List.getLast?_eq_some_getLast hne] at hc
    cases hc
    simpa using h _ (List.getLast_mem hne)
  have hkept : ds.filter (fun c => c ≠ '\t' ∧ c ≠ '\n' ∧ c ≠ '\x0d') = ds := by
    rw [List.filter_eq_self]
    intro c hc
    have hvisible := h c hc
    have hbreak : c ≠ '\t' ∧ c ≠ '\n' ∧ c ≠ '\x0d' := by
      refine ⟨?_, ?_, ?_⟩ <;> rintro rfl <;> exact absurd hvisible (by decide)
    exact decide_eq_true hbreak
  unfold clean
  rw [hfront]
  dsimp only
  rw [hback, List.reverse_reverse, List.filter_append, hkept]

/-- A scheme ends before the first slash. -/
theorem scheme?_append (cs ds : List Char) :
    scheme? (cs ++ '/' :: ds) =
      (scheme? cs).map fun (scheme, rest) => (scheme, rest ++ '/' :: ds) := by
  have hname : (cs ++ '/' :: ds).takeWhile
      (fun c => c.isAlphanum || c = '+' || c = '-' || c = '.') =
        cs.takeWhile (fun c => c.isAlphanum || c = '+' || c = '-' || c = '.') :=
    takeWhile_append_stop (by decide) _ _
  have hle : (cs.takeWhile
      (fun c => c.isAlphanum || c = '+' || c = '-' || c = '.')).length ≤ cs.length :=
    (List.takeWhile_prefix _).length_le
  unfold scheme?
  rw [hname]
  dsimp only
  rw [List.drop_append_of_le_length hle]
  -- What the name is does not matter any more, but only whether a colon stands behind it.
  generalize cs.takeWhile (fun c => c.isAlphanum || c = '+' || c = '-' || c = '.') = name
  generalize cs.drop name.length = behind
  cases name with
  | nil => rfl
  | cons first name =>
    cases behind with
    | nil => rfl
    | cons c behind =>
      by_cases hc : c = ':'
      · subst hc
        by_cases halpha : first.isAlpha = true <;> simp [halpha]
      · simp [hc]

/-- **Below one directory.** Of the addresses of one directory, all are of the web or none is. -/
theorem isWeb_below {name tail tail' : List Char} (base : List Char)
    (hslash : ∃ c ∈ name, isSlash true c = false)
    (hvisible : ∀ c ∈ name ++ '/' :: (tail ++ tail'), 0x20 < c.toNat)
    (h : ∃ u, parse (String.ofList (base ++ '/' :: (name ++ '/' :: tail))) = some u ∧
      u.isWeb = true) :
    ∃ u, parse (String.ofList (base ++ '/' :: (name ++ '/' :: tail'))) = some u ∧
      u.isWeb = true := by
  obtain ⟨c, hc, hplain⟩ := hslash
  have hclean {last : List Char} (hend : ∀ x ∈ last, x ∈ tail ++ tail') :
      clean (base ++ '/' :: (name ++ '/' :: last)) =
        (base.dropWhile (·.toNat ≤ 0x20)).filter (fun c => c ≠ '\t' ∧ c ≠ '\n' ∧ c ≠ '\x0d') ++
          '/' :: (name ++ '/' :: last) := by
    refine clean_append (List.cons_ne_nil _ _) (fun x hx => ?_) base
    rcases List.mem_cons.mp hx with rfl | hx
    · decide
    · refine hvisible x ?_
      rcases List.mem_append.mp hx with hx | hx
      · exact List.mem_append_left _ hx
      · rcases List.mem_cons.mp hx with rfl | hx
        · simp
        · exact List.mem_append_right _ (List.mem_cons_of_mem _ (hend x hx))
  -- The authority ends in the name at the latest, since there is a character in it that is no
  -- slash.
  have hauthority (rest last : List Char) :
      authorityText (rest ++ '/' :: (name ++ '/' :: last)) =
        authorityText (rest ++ '/' :: name) := by
    rw [← authorityText_append (List.mem_append_right rest (List.mem_cons_of_mem '/' hc)) hplain
      last, List.append_assoc]
    rfl
  rw [isWeb_iff] at h ⊢
  rw [String.toList_ofList, hclean fun x hx => List.mem_append_left _ hx, scheme?_append] at h
  rw [String.toList_ofList, hclean fun x hx => List.mem_append_right _ hx, scheme?_append]
  obtain ⟨scheme, rest, hscheme, hweb, hknown⟩ := h
  obtain ⟨⟨scheme, rest⟩, hfound, heq⟩ := Option.map_eq_some_iff.mp hscheme
  obtain ⟨rfl, rfl⟩ := Prod.mk.inj heq
  refine ⟨scheme, rest ++ '/' :: (name ++ '/' :: tail'), ?_, hweb, ?_⟩
  · rw [hfound]
    rfl
  · rw [hauthority] at hknown ⊢
    exact hknown

end DialogStub.Url
