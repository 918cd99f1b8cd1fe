import DialogStub.Proofs.Config.Numeral
import DialogStub.Proofs.Text.Blank
import DialogStub.Proofs.Text.Decode
import Mathlib.Logic.Function.Defs

/-!
# Settings and the variables they come from

What each setting is in every environment.

* `Config.Setting` — the eleven settings by the kind of what they hold, each with its variable;
* `Config.Kind.Takes`, `Config.Kind.Rejects` — the value that a text stands for in a setting of a
  kind, and the texts that stand for none;
* `Config.Setting.Void` — the environments in which the variable of a setting says nothing;
* `Config.ofEnvironment_settings` — each setting has the value of its own variable, and the standard
  one if the variable says nothing.

The settings are read in four ways, one for each kind. So there is one lemma on how a kind is read,
and the rest of the argument is the same for all settings.
-/

namespace DialogStub.Config

/-! ### Kinds of settings -/

/-- What a setting holds: any text, a text that is not blank, a flag, or a time. -/
inductive Kind where
  | any
  | filled
  | flag
  | duration

/-- The values of a kind. -/
@[reducible] def Kind.Value : Kind → Type
  | .any => String
  | .filled => Option String
  | .flag => Bool
  | .duration => Nat

/-- The value that the text of a variable stands for. -/
def Kind.Takes : (kind : Kind) → String → kind.Value → Prop
  | .any, text, value => value = text
  | .filled, text, value => value = some text ∧ ∃ c ∈ text.toList, Text.isBlank c = false
  | .flag, text, value =>
    value = true ↔ text = "1" ∨ text.toList.map Char.toLower = ['t', 'r', 'u', 'e']
  | .duration, text, n => Numeral text n

/-- The texts that stand for no value: blank ones where a text is asked for, and all but numerals
    where a time is. -/
def Kind.Rejects : Kind → String → Prop
  | .any, _ => False
  | .filled, text => ∀ c ∈ text.toList, Text.isBlank c = true
  | .flag, _ => False
  | .duration, text => ∀ n, ¬Numeral text n

/-- The value that is read from the text of a variable. -/
def Kind.read? : (kind : Kind) → String → Option kind.Value
  | .any, text => some text
  | .filled, text => if Text.trimText text ≠ "" then some (some text) else none
  | .flag, text => some (flagOf text)
  | .duration, text => number? text.toList

/-- A flag is set by one of two words. -/
theorem flagOf_eq_true_iff {text : String} :
    flagOf text = true ↔ text = "1" ∨ text.toList.map Char.toLower = ['t', 'r', 'u', 'e'] := by
  rw [flagOf, Bool.or_eq_true, decide_eq_true_eq, decide_eq_true_eq]
  rfl

/-- What is read from a text is what it stands for. -/
theorem Kind.read?_eq_some_iff {kind : Kind} {text : String} {value : kind.Value} :
    kind.read? text = some value ↔ kind.Takes text value := by
  -- Each kind has its own reader.
  cases kind with
  | any =>
    show some text = some value ↔ value = text
    rw [Option.some.injEq, eq_comm]
  | filled =>
    have hfilled : Text.trimText text ≠ "" ↔ ∃ c ∈ text.toList, Text.isBlank c = false := by
      rw [Ne, Text.trimText_eq_empty_iff]
      simp
    show (if Text.trimText text ≠ "" then some (some text) else none) = some value ↔
      value = some text ∧ ∃ c ∈ text.toList, Text.isBlank c = false
    rw [← hfilled, Option.ite_none_right_eq_some, Option.some.injEq, and_comm,
      eq_comm (a := some text)]
  | flag =>
    show some (flagOf text) = some value ↔
      (value = true ↔ text = "1" ∨ text.toList.map Char.toLower = ['t', 'r', 'u', 'e'])
    rw [Option.some.injEq, ← flagOf_eq_true_iff, Bool.eq_iff_iff]
    exact Iff.comm
  | duration => exact number?_eq_some_iff

/-- Nothing is read exactly from the texts that are rejected. -/
theorem Kind.read?_eq_none_iff {kind : Kind} {text : String} :
    kind.read? text = none ↔ kind.Rejects text := by
  -- Two of the kinds reject nothing.
  cases kind with
  | any => exact iff_of_false (Option.some_ne_none text) id
  | flag => exact iff_of_false (Option.some_ne_none (flagOf text)) id
  | filled =>
    show (if Text.trimText text ≠ "" then some (some text) else none) = none ↔
      ∀ c ∈ text.toList, Text.isBlank c = true
    rw [← Text.trimText_eq_empty_iff]
    by_cases hblank : Text.trimText text = "" <;> simp [hblank]
  | duration =>
    show number? text.toList = none ↔ ∀ n, ¬Numeral text n
    rw [Option.eq_none_iff_forall_ne_some]
    exact forall_congr' fun n => not_congr number?_eq_some_iff

/-! ### The settings -/

/-- The settings of each kind. -/
inductive Setting : Kind → Type where
  | bindAddress : Setting .any
  | logLevel : Setting .any
  | logJson : Setting .flag
  | corsAllowedOrigins : Setting .filled
  | enableSwagger : Setting .flag
  | fixturesPath : Setting .filled
  | serviceName : Setting .any
  | platformUrl : Setting .any
  | probeTimeout : Setting .duration
  | requestTimeout : Setting .duration
  | demoDelay : Setting .duration

namespace Setting

variable {kind : Kind}

/-- The name of the variable of a setting. -/
def key : Setting kind → String
  | .bindAddress => "MOCK_BIND"
  | .logLevel => "MOCK_LOG"
  | .logJson => "MOCK_LOG_JSON"
  | .corsAllowedOrigins => "MOCK_CORS_ORIGINS"
  | .enableSwagger => "MOCK_ENABLE_SWAGGER"
  | .fixturesPath => "MOCK_FIXTURES"
  | .serviceName => "MOCK_SERVICE_NAME"
  | .platformUrl => "MOCK_PLATFORM_URL"
  | .probeTimeout => "MOCK_PROBE_TIMEOUT_MS"
  | .requestTimeout => "MOCK_UPSTREAM_TIMEOUT_MS"
  | .demoDelay => "MOCK_DEMO_DELAY_MS"

/-- The value of a setting. -/
def get : Setting kind → Config → kind.Value
  | .bindAddress, config => config.bindAddress
  | .logLevel, config => config.logLevel
  | .logJson, config => config.logJson
  | .corsAllowedOrigins, config => config.corsAllowedOrigins
  | .enableSwagger, config => config.enableSwagger
  | .fixturesPath, config => config.fixturesPath
  | .serviceName, config => config.serviceName
  | .platformUrl, config => config.platformUrl
  | .probeTimeout, config => config.probeTimeout
  | .requestTimeout, config => config.requestTimeout
  | .demoDelay, config => config.demoDelay

/-- The variable of a setting says nothing: it is not set or not UTF-8, or its text is rejected. -/
inductive Void (env : Environment) (setting : Setting kind) : Prop where
  | unset (h : env setting.key = none)
  | malformed {bytes : Bytes} (h : env setting.key = some bytes)
      (hill : ∀ text, Utf8.bytes text ≠ bytes)
  | rejected {text : String} (h : env setting.key = some (Utf8.bytes text))
      (hrejects : kind.Rejects text)

/-- No two settings have the same variable. -/
theorem key_injective : Function.Injective fun setting : Σ kind, Setting kind => setting.2.key := by
  rintro ⟨_, setting⟩ ⟨_, setting'⟩ h
  cases setting <;> cases setting' <;> first | rfl | exact absurd h (by decide)

/-- There is nothing in a configuration beside the settings. -/
theorem config_ext {config config' : Config}
    (h : ∀ {kind : Kind} (setting : Setting kind), setting.get config = setting.get config') :
    config = config' := by
  cases config
  cases config'
  rw [Config.mk.injEq]
  exact ⟨h .bindAddress, h .logLevel, h .logJson, h .corsAllowedOrigins, h .enableSwagger,
    h .fixturesPath, h .serviceName, h .platformUrl, h .probeTimeout, h .requestTimeout,
    h .demoDelay⟩

/-! ### What is read for a setting -/

/-- A setting is read from its own variable, and is the standard one if nothing can be read. -/
theorem get_ofEnvironment (env : Environment) (setting : Setting kind) :
    setting.get (ofEnvironment env) =
      ((text? env setting.key).bind kind.read?).getD (setting.get standard) := by
  have hany (name : String) (standard : String) :
      (text? env name).getD standard = ((text? env name).bind Kind.any.read?).getD standard := by
    cases text? env name <;> rfl
  have hfilled (name : String) :
      filled? env name = ((text? env name).bind Kind.filled.read?).getD none := by
    rw [filled?]
    cases text? env name with
    | none => rfl
    | some text =>
      by_cases hblank : Text.trimText text = "" <;> simp [Kind.read?, hblank]
  have hflag (name : String) (standard : Bool) :
      flag env name standard = ((text? env name).bind Kind.flag.read?).getD standard := by
    rw [flag]
    cases text? env name <;> rfl
  -- The standard values stand in two places, and these are the same values.
  cases setting with
  | bindAddress | logLevel | serviceName | platformUrl => exact hany _ _
  | corsAllowedOrigins | fixturesPath => exact hfilled _
  | logJson | enableSwagger => exact hflag _ _
  | probeTimeout | requestTimeout | demoDelay => rfl

theorem text?_of_set {env : Environment} {name text : String}
    (h : env name = some (Utf8.bytes text)) : text? env name = some text := by
  rw [text?, h, Option.bind_some, Utf8.text?_bytes]

/-- A setting whose variable says nothing is the standard one. -/
theorem get_of_void {env : Environment} {setting : Setting kind} (h : setting.Void env) :
    setting.get (ofEnvironment env) = setting.get standard := by
  rw [get_ofEnvironment]
  cases h with
  | unset hunset => rw [text?, hunset]; rfl
  | malformed hbytes hill =>
    rw [text?, hbytes, Option.bind_some, Utf8.text?_eq_none_iff.mpr hill]
    rfl
  | rejected htext hrejects =>
    rw [text?_of_set htext, Option.bind_some, Kind.read?_eq_none_iff.mpr hrejects]
    rfl

/-- A variable that stands for a value gives it to its setting. -/
theorem get_of_takes {env : Environment} {setting : Setting kind} {text : String}
    {value : kind.Value} (h : env setting.key = some (Utf8.bytes text))
    (htakes : kind.Takes text value) : setting.get (ofEnvironment env) = value := by
  rw [get_ofEnvironment, text?_of_set h, Option.bind_some, Kind.read?_eq_some_iff.mpr htakes]
  rfl

/-- A variable says nothing, or its text stands for a value. -/
theorem void_or_takes (env : Environment) (setting : Setting kind) :
    setting.Void env ∨
      ∃ text value, env setting.key = some (Utf8.bytes text) ∧ kind.Takes text value := by
  cases hset : env setting.key with
  | none => exact .inl (.unset hset)
  | some bytes =>
    cases hdecode : Utf8.text? bytes with
    | none => exact .inl (.malformed hset (Utf8.text?_eq_none_iff.mp hdecode))
    | some text =>
      obtain rfl := Utf8.text?_eq_some_iff.mp hdecode
      cases hread : kind.read? text with
      | some value => exact .inr ⟨text, value, rfl, Kind.read?_eq_some_iff.mp hread⟩
      | none => exact .inl (.rejected hset (Kind.read?_eq_none_iff.mp hread))

end Setting

open Setting

/-- **Every setting comes from a variable of its own.** No other variable has a part in it. If this
    variable is not set, not UTF-8, blank where a text is asked for or no numeral where a time is,
    the setting is the standard one. Otherwise it is what the text of the variable stands for.

    Digits behind at most one plus sign are read as the number they stand for if this is below
    `2 ^ 64`, and are passed over if it is not, however many they are. So the decimal text of every
    number of 64 bits is read back as this number, with any zeros in front. -/
theorem ofEnvironment_settings :
    (Function.Injective fun setting : Σ kind, Setting kind => setting.2.key) ∧
    (∀ config config' : Config,
      (∀ {kind : Kind} (setting : Setting kind), setting.get config = setting.get config') →
        config = config') ∧
    ∀ env : Environment,
      (∀ {kind : Kind} (setting : Setting kind),
        (∀ env' : Environment, env' setting.key = env setting.key →
          setting.get (ofEnvironment env') = setting.get (ofEnvironment env)) ∧
        (setting.Void env → setting.get (ofEnvironment env) = setting.get standard) ∧
        (¬setting.Void env → ∃ text, env setting.key = some (Utf8.bytes text) ∧
          kind.Takes text (setting.get (ofEnvironment env)))) ∧
      ∀ (setting : Setting .duration) (sign : List Char), IsSign sign →
        (∀ digits, AreDigits digits →
          env setting.key = some (Utf8.encode (sign ++ digits)) →
          setting.get (ofEnvironment env) =
            if valueOf digits < 0x10000000000000000 then valueOf digits else setting.get standard) ∧
        ∀ zeros n, n < 0x10000000000000000 →
          env setting.key = some (Utf8.encode
            (sign ++ (List.replicate zeros '0' ++ (toString n).toList))) →
          setting.get (ofEnvironment env) = n := by
  have hbytes (cs : List Char) : Utf8.bytes (String.ofList cs) = Utf8.encode cs := by
    rw [Utf8.bytes, String.toList_ofList]
  refine ⟨key_injective, fun config config' h => config_ext h, fun env => ⟨?_, ?_⟩⟩
  · intro kind setting
    refine ⟨fun env' hsame => ?_, get_of_void, fun hnot => ?_⟩
    · rw [get_ofEnvironment, get_ofEnvironment, text?, text?, hsame]
    · obtain ⟨text, value, htext, htakes⟩ := (void_or_takes env setting).resolve_left hnot
      rw [← get_of_takes htext htakes] at htakes
      exact ⟨text, htext, htakes⟩
  · intro setting sign hsign
    refine ⟨fun digits hdigits hset => ?_, fun zeros n hn hset => ?_⟩
    · -- Digits of a number that takes more than 64 bits are no numeral, so that they say nothing.
      rw [← hbytes] at hset
      split
      · rename_i hlt
        exact get_of_takes hset
          ⟨sign, digits, String.toList_ofList, hsign, hdigits, rfl, hlt⟩
      · rename_i hle
        exact get_of_void (.rejected hset
          (not_numeral_of_le String.toList_ofList hsign hdigits (Nat.not_lt.mp hle)))
    · rw [← hbytes] at hset
      exact get_of_takes hset (numeral_toString String.toList_ofList hsign hn)

/-- **Five variables at once.** The pause of the demo is read behind a plus sign and zeros, and a
    timeout is the greatest number of 64 bits. The next number as a timeout, a path of white space
    and a level that is not UTF-8 say nothing. -/
theorem settings_of_five :
    let env : Environment := fun name =>
      if name = "MOCK_DEMO_DELAY_MS" then some (Utf8.bytes "+00250")
      else if name = "MOCK_UPSTREAM_TIMEOUT_MS" then some (Utf8.bytes "18446744073709551615")
      else if name = "MOCK_PROBE_TIMEOUT_MS" then some (Utf8.bytes "018446744073709551616")
      else if name = "MOCK_FIXTURES" then some (Utf8.bytes " ")
      else if name = "MOCK_LOG" then some [0xFF]
      else none
    let config := ofEnvironment env
    config.demoDelay = 250 ∧ config.requestTimeout = 0xFFFFFFFFFFFFFFFF ∧
      config.probeTimeout = 2000 ∧ config.fixturesPath = none ∧ config.logLevel = "info" := by
  intro env config
  obtain ⟨-, -, hall⟩ := ofEnvironment_settings
  obtain ⟨hsettings, hnumbers⟩ := hall env
  -- Two of the five are numbers, one is too great, and two are rejected.
  refine ⟨?_, ?_, ?_, (hsettings .fixturesPath).2.1 ?_, (hsettings .logLevel).2.1 ?_⟩
  · exact (hnumbers .demoDelay ['+'] (.inr rfl)).2 2 250 (by decide) (by decide +kernel)
  · exact (hnumbers .requestTimeout [] (.inl rfl)).2 0 0xFFFFFFFFFFFFFFFF (by decide)
      (by decide +kernel)
  · have hread := (hnumbers .probeTimeout [] (.inl rfl)).1 _
      (areDigits_zeros_append 1 0x10000000000000000) (by decide +kernel)
    rw [valueOf_zeros_append, if_neg (Nat.lt_irrefl _)] at hread
    exact hread
  · have hpath : env Setting.fixturesPath.key = some (Utf8.bytes " ") := by decide +kernel
    have hspace : ∀ c ∈ [' '], Text.isBlank c = true := List.forall_mem_singleton.mpr (by decide)
    exact .rejected hpath hspace
  · have hlevel : env Setting.logLevel.key = some [0xFF] := by decide +kernel
    exact .malformed hlevel (Utf8.text?_eq_none_iff.mp (by decide +kernel))

end DialogStub.Config
