import DialogStub.Proofs.Api.Origins
import DialogStub.Proofs.Text.Blank
import DialogStub.Proofs.Text.Utf8

/-!
# Which settings start a server

A list of origins may not hold the mark for any origin, so that one text among the settings can keep
a server from its start.

* `Cors.StarAlone` — a text in which a star stands alone between commas and white space;
* `Cors.mem_pieces_iff` — the pieces of a text, by where they stand in it;
* `Cors.wildcard_mem_origins_iff` — the mark is among the origins of exactly such texts;
* `Server.start_ofEnvironment` — which environments start a server, and with which policy.

Only the setting for origins counts. Neither another variable nor the fixtures can keep a server
from its start, and of the setting no other piece can.
-/

namespace DialogStub

namespace Http.Cors

/-! ### Pieces between commas -/

/-- Nothing, or a text that ends with a comma. -/
def Opens (before : List Char) : Prop :=
  before = [] ∨ ∃ start, before = start ++ [',']

/-- Nothing, or a text that begins with a comma. -/
def Closes (after : List Char) : Prop :=
  after = [] ∨ ∃ rest, after = ',' :: rest

/-- A character goes to the first piece, and a comma begins a new one before it. -/
theorem pieces_cons {c : Char} {cs piece : List Char} {rest : List (List Char)}
    (h : pieces cs = piece :: rest) :
    pieces (c :: cs) = if c = ',' then [] :: piece :: rest else (c :: piece) :: rest := by
  rw [pieces, h]

/-- There is a piece at least, which may be empty. -/
theorem exists_pieces (cs : List Char) : ∃ piece rest, pieces cs = piece :: rest := by
  induction cs with
  | nil => exact ⟨[], [], rfl⟩
  | cons c cs ih =>
    obtain ⟨piece, rest, h⟩ := ih
    rw [pieces_cons h]
    split
    · exact ⟨_, _, rfl⟩
    · exact ⟨_, _, rfl⟩

/-- At a comma a text falls into two, with pieces of their own. -/
theorem pieces_append_comma (before after : List Char) :
    pieces (before ++ ',' :: after) = pieces before ++ pieces after := by
  induction before with
  -- The comma is at the front, so that an empty piece comes first.
  | nil =>
    obtain ⟨piece, rest, h⟩ := exists_pieces after
    rw [List.nil_append, pieces_cons h, if_pos rfl, h]
    rfl
  | cons c before ih =>
    obtain ⟨piece, rest, h⟩ := exists_pieces before
    have hmore : pieces (before ++ ',' :: after) = piece :: (rest ++ pieces after) := by
      rw [ih, h]
      rfl
    rw [List.cons_append, pieces_cons hmore, pieces_cons h]
    split <;> rfl

/-- Without a comma there is one piece. -/
theorem pieces_of_no_comma {cs : List Char} (h : ',' ∉ cs) : pieces cs = [cs] := by
  induction cs with
  | nil => rfl
  | cons c cs ih =>
    have hc : c ≠ ',' := fun heq => h (heq ▸ List.mem_cons_self)
    have hcs : ',' ∉ cs := fun hmem => h (List.mem_cons_of_mem c hmem)
    rw [pieces_cons (ih hcs), if_neg hc]

/-- The first piece of a text starts it, and the others stand behind commas. -/
theorem pieces_places {cs first : List Char} {rest : List (List Char)}
    (h : pieces cs = first :: rest) :
    (',' ∉ first ∧ ∃ after, cs = first ++ after ∧ Closes after) ∧
      ∀ piece ∈ rest, ',' ∉ piece ∧
        ∃ start after, cs = start ++ ',' :: (piece ++ after) ∧ Closes after := by
  induction cs generalizing first rest with
  | nil =>
    cases h
    exact ⟨⟨by simp, [], rfl, .inl rfl⟩, by simp⟩
  | cons c cs ih =>
    obtain ⟨piece, rest', hpieces⟩ := exists_pieces cs
    obtain ⟨⟨hno, after, hcs, hcloses⟩, hrest⟩ := ih hpieces
    have hlater : ∀ piece ∈ rest', ',' ∉ piece ∧
        ∃ start after, c :: cs = start ++ ',' :: (piece ++ after) ∧ Closes after := by
      intro piece hpiece
      obtain ⟨hno, start, after, hcs, hcloses⟩ := hrest piece hpiece
      exact ⟨hno, c :: start, after, by rw [hcs, List.cons_append], hcloses⟩
    rw [pieces_cons hpieces] at h
    by_cases hc : c = ','
    · -- The comma ends an empty piece, and the piece behind it is no longer the first.
      rw [if_pos hc] at h
      cases h
      refine ⟨⟨by simp, c :: cs, rfl, .inr ⟨cs, by rw [hc]⟩⟩, List.forall_mem_cons.mpr ⟨?_, hlater⟩⟩
      exact ⟨hno, [], after, by rw [hc, hcs]; rfl, hcloses⟩
    · rw [if_neg hc] at h
      cases h
      refine ⟨⟨?_, after, by rw [hcs, List.cons_append], hcloses⟩, hlater⟩
      simpa using ⟨Ne.symm hc, hno⟩

/-- **The pieces of a text** are its parts without a comma that reach from a comma, or the start, to
    a comma, or the end. -/
theorem mem_pieces_iff {cs piece : List Char} :
    piece ∈ pieces cs ↔ ',' ∉ piece ∧
      ∃ before after, cs = before ++ piece ++ after ∧ Opens before ∧ Closes after := by
  constructor
  · intro h
    obtain ⟨first, rest, hpieces⟩ := exists_pieces cs
    obtain ⟨⟨hfirst, after, hcs, hcloses⟩, hrest⟩ := pieces_places hpieces
    rw [hpieces] at h
    rcases List.mem_cons.mp h with rfl | hmem
    · exact ⟨hfirst, [], after, hcs, .inl rfl, hcloses⟩
    · obtain ⟨hno, start, after, hcs, hcloses⟩ := hrest piece hmem
      exact ⟨hno, start ++ [','], after, by simp [hcs], .inr ⟨start, rfl⟩, hcloses⟩
  · rintro ⟨hpiece, before, after, rfl, hopens, hcloses⟩
    -- What closes the piece cuts it off at its end, and what opens it cuts it off at its start.
    have hlast : piece ∈ pieces (piece ++ after) := by
      rcases hcloses with rfl | ⟨rest, rfl⟩
      · rw [List.append_nil, pieces_of_no_comma hpiece]
        exact List.mem_singleton_self piece
      · rw [pieces_append_comma, pieces_of_no_comma hpiece]
        exact List.mem_cons_self
    rcases hopens with rfl | ⟨start, rfl⟩
    · exact hlast
    · rw [List.append_assoc, List.append_assoc, List.singleton_append, pieces_append_comma]
      exact List.mem_append_right _ hlast

/-! ### Stars -/

/-- A star stands alone in a text: with it there is only white space between commas, or the ends. -/
def StarAlone (setting : String) : Prop :=
  ∃ before left right after, setting.toList = before ++ (left ++ '*' :: right) ++ after ∧
    Opens before ∧ (∀ c ∈ left ++ right, Text.isBlank c = true) ∧ Closes after

/-- **The mark for any origin** is listed exactly if a star stands alone. -/
theorem wildcard_mem_origins_iff {setting : String} :
    wildcard ∈ origins setting ↔ StarAlone setting := by
  have hstar : Text.isBlank '*' = false := by decide
  have hvalue : Header.isValue wildcard = true := by decide
  -- The mark comes of the pieces that are trimmed to a star.
  have hlisted : wildcard ∈ listed setting ↔
      ∃ piece ∈ pieces setting.toList, Text.trim piece = ['*'] := by
    have hencode {cs : List Char} : Utf8.encode cs = wildcard ↔ cs = ['*'] :=
      Utf8.encode_injective.eq_iff' rfl
    simp only [listed, List.mem_map, List.mem_filter, hencode]
    constructor
    · rintro ⟨cs, ⟨⟨piece, hpiece, rfl⟩, -⟩, htrim⟩
      exact ⟨piece, hpiece, htrim⟩
    · rintro ⟨piece, hpiece, htrim⟩
      exact ⟨_, ⟨⟨piece, hpiece, rfl⟩, by simp [htrim]⟩, htrim⟩
  rw [mem_origins_iff, hlisted, and_iff_left hvalue]
  constructor
  · rintro ⟨piece, hpiece, htrim⟩
    obtain ⟨-, before, after, hsetting, hopens, hcloses⟩ := mem_pieces_iff.mp hpiece
    obtain ⟨left, right, rfl, hblank⟩ := (Text.trim_eq_singleton_iff hstar).mp htrim
    exact ⟨before, left, right, after, hsetting, hopens, hblank, hcloses⟩
  · rintro ⟨before, left, right, after, hsetting, hopens, hblank, hcloses⟩
    have htrim : Text.trim (left ++ '*' :: right) = ['*'] :=
      (Text.trim_eq_singleton_iff hstar).mpr ⟨left, right, rfl, hblank⟩
    have hcomma : ',' ∉ left ++ '*' :: right := by
      intro hmem
      have hmem' : ',' ∈ left ++ right := by simpa using hmem
      have hblank' := hblank ',' hmem'
      revert hblank'
      decide
    exact ⟨left ++ '*' :: right,
      mem_pieces_iff.mpr ⟨hcomma, before, after, hsetting, hopens, hcloses⟩, htrim⟩

/-- A text in which a star stands alone is not all white space. -/
theorem StarAlone.trimText_ne {setting : String} (h : StarAlone setting) :
    Text.trimText setting ≠ "" := by
  obtain ⟨before, left, right, after, hsetting, -⟩ := h
  have hstar : '*' ∈ setting.toList := by
    rw [hsetting]
    simp
  intro hempty
  have hblank : Text.isBlank '*' = true := Text.trimText_eq_empty_iff.mp hempty '*' hstar
  exact absurd hblank (by decide)

/-- The policy of a setting, if there is one. -/
theorem Policy.ofSetting?_cases (setting : Option String) :
    (Policy.ofSetting? setting = .error wildcardMessage ∧ ∃ text ∈ setting, StarAlone text) ∨
    ((¬∃ text ∈ setting, StarAlone text) ∧ ∃ policy, Policy.ofSetting? setting = .ok policy ∧
      (policy = .any ∨ ∃ text ∈ setting, policy = .list (origins text))) := by
  cases setting with
  | none => exact .inr ⟨by simp, .any, rfl, .inl rfl⟩
  | some text =>
    by_cases hstar : StarAlone text
    · -- A list with the mark is not empty, so that it is refused and not taken for any origin.
      have hmem : wildcard ∈ origins text := wildcard_mem_origins_iff.mpr hstar
      refine .inl ⟨?_, text, rfl, hstar⟩
      rw [ofSetting?, if_neg (List.ne_nil_of_mem hmem), if_pos (List.contains_iff_mem.mpr hmem)]
    · have hmem : wildcard ∉ origins text := fun hmem => hstar (wildcard_mem_origins_iff.mp hmem)
      refine .inr ⟨by simpa using hstar, ?_⟩
      rw [ofSetting?]
      split
      · exact ⟨.any, rfl, .inl rfl⟩
      · rw [if_neg (fun hcontains => hmem (List.contains_iff_mem.mp hcontains))]
        exact ⟨_, rfl, .inr ⟨text, rfl, rfl⟩⟩

end Http.Cors

open Http

/-! ### Starts -/

/-- A star stands alone in the setting for origins. -/
def Config.ListsStar (env : Environment) : Prop :=
  ∃ setting, Config.text? env "MOCK_CORS_ORIGINS" = some setting ∧ Cors.StarAlone setting

/-- A star is alone in the variable if it is so in the setting that is made of it. -/
theorem Config.listsStar_iff {env : Environment} :
    Config.ListsStar env ↔
      ∃ setting ∈ (Config.ofEnvironment env).corsAllowedOrigins, Cors.StarAlone setting := by
  constructor
  · rintro ⟨setting, hsetting, hstar⟩
    refine ⟨setting, ?_, hstar⟩
    -- A setting of white space alone is passed over, but there is a star in this one.
    exact Option.filter_eq_some_iff.mpr ⟨hsetting, by simpa using hstar.trimText_ne⟩
  · rintro ⟨setting, hsetting, hstar⟩
    exact ⟨setting, (Option.filter_eq_some_iff.mp hsetting).1, hstar⟩

namespace Server

/-- **Every environment starts a server, unless a star stands alone in the setting for origins.**
    Whatever else the variables hold, the server then has their configuration and the fixtures, and
    it allows any origin or those that can be used of the setting. With a lone star there is no
    server, whatever the other variables and the fixtures are. -/
theorem start_ofEnvironment (env : Environment) (fixtures : Fixtures) (platform : Platform)
    (supply : Supply) :
    let config := Config.ofEnvironment env
    (Config.ListsStar env ∧
      start? config fixtures platform supply = .error Cors.wildcardMessage) ∨
    (¬Config.ListsStar env ∧ ∃ policy,
      start? config fixtures platform supply =
        .ok ⟨config, fixtures, .ofAddress platform config.platformUrl, supply, policy⟩ ∧
      (policy = .any ∨ ∃ setting, Config.text? env "MOCK_CORS_ORIGINS" = some setting ∧
        Cors.wildcard ∉ Cors.origins setting ∧ policy = .list (Cors.origins setting))) := by
  intro config
  -- The setting has a policy, or a star stands alone in it.
  rcases Cors.Policy.ofSetting?_cases config.corsAllowedOrigins with
    ⟨herror, hstar⟩ | ⟨hnone, policy, hok, hpolicy⟩
  · refine .inl ⟨Config.listsStar_iff.mpr hstar, ?_⟩
    rw [start?, herror]
  · refine .inr ⟨fun hstar => hnone (Config.listsStar_iff.mp hstar), policy, ?_, ?_⟩
    · rw [start?, hok]
    · rcases hpolicy with rfl | ⟨setting, hsetting, rfl⟩
      · exact .inl rfl
      · have hfree : Cors.wildcard ∉ Cors.origins setting :=
          fun hmem => hnone ⟨setting, hsetting, Cors.wildcard_mem_origins_iff.mp hmem⟩
        exact .inr ⟨setting, (Option.filter_eq_some_iff.mp hsetting).1, hfree, rfl⟩

/-- **A setting of one star** keeps a server with the built-in fixtures from its start. -/
theorem start_star :
    let env : Environment :=
      fun name => if name = "MOCK_CORS_ORIGINS" then some (Utf8.bytes "*") else none
    let config := Config.ofEnvironment env
    ∃ fixtures, Fixtures.load (fun _ => .error .notFound) config.fixturesPath = .ok fixtures ∧
      start? config fixtures (fun _ => .failed) .strokes = .error Cors.wildcardMessage := by
  intro env config
  have hpath : config.fixturesPath = none := by decide +kernel
  -- The setting is read as one piece, and the built-in fixtures load.
  have hpolicy :
      Cors.Policy.ofSetting? config.corsAllowedOrigins = .error Cors.wildcardMessage := by
    decide +kernel
  have hloads : (Fixtures.load (fun _ => .error .notFound) none).isOk = true := by decide +kernel
  rw [hpath]
  cases hload : Fixtures.load (fun _ => .error .notFound) none with
  | error fault =>
    rw [hload] at hloads
    cases hloads
  | ok fixtures =>
    refine ⟨fixtures, rfl, ?_⟩
    rw [start?, hpolicy]

end Server

end DialogStub
