import Mathlib.Data.List.Nodup
import Mathlib.Data.List.Perm.Basic
import SyncAudio.Lib.LastWrite
import SyncAudio.Lib.Text

/-!
# The command line

`parseCommandLine` reads the mode, its argument and then options with their values. An option
holds for some modes only, its last value counts, and the order of different options does not
matter.

## Implementation notes

The arguments are those behind the name of the program. The options that impair the network
are in debug builds only and are left out.
-/

namespace SyncAudio

open Text

inductive Mode where
  | localFile
  | host
  | client
  | control
  | roomClient
  deriving DecidableEq

structure CommandLine where
  mode : Mode := .localFile
  argument : Text
  destinationAddress : Text := "255.255.255.255".toList
  bindAddress : Text := "0.0.0.0".toList
  roomName : Text := "Tandem Audio".toList
  audioPort : UInt16 := 40100
  clockSyncPort : UInt16 := 40101
  sessionPort : UInt16 := 40102
  outputLatencyAdjustment : Int := 0
  deriving DecidableEq

namespace CommandLine

/-- `std::from_chars` of the whole text, for an `unsigned int`. -/
def unsignedFromChars (text : Text) : Option Nat := toNat? (2 ^ 32) text

/-- `std::from_chars` of the whole text, for an `int`. -/
def intFromChars : Text → Option Int
  | '-' :: digits => (toNat? (2 ^ 31 + 1) digits).map fun magnitude => -Int.ofNat magnitude
  | digits => (toNat? (2 ^ 31) digits).map Int.ofNat

def parsePort (text : Text) : Except Text UInt16 :=
  match unsignedFromChars text with
  | none => .error "Port must be an integer from 1 to 65535".toList
  | some value =>
      if value = 0 ∨ 65535 < value then .error "Port must be an integer from 1 to 65535".toList
      else .ok value.toUInt16

def parseOutputLatency (text : Text) : Except Text Int :=
  match intFromChars text with
  | none => .error "Output latency must be -1000..1000 ms".toList
  | some value =>
      if value < -1000 ∨ 1000 < value then .error "Output latency must be -1000..1000 ms".toList
      else .ok value

def refuse (option : Text) : Except Text CommandLine :=
  .error ("Unknown, incomplete, or inapplicable option: ".toList ++ option)

/-- One option with its value. -/
def readOption (line : CommandLine) (option value : Text) : Except Text CommandLine :=
  if option = "--address".toList ∧ line.mode = .host then
    .ok { line with destinationAddress := value }
  else if option = "--bind".toList ∧ line.mode = .client then
    .ok { line with bindAddress := value }
  else if option = "--port".toList then
    (parsePort value).map fun port => { line with audioPort := port }
  else if option = "--control-port".toList then
    (parsePort value).map fun port => { line with clockSyncPort := port }
  else if option = "--session-port".toList ∧
      (line.mode = .host ∨ line.mode = .control ∨ line.mode = .roomClient) then
    (parsePort value).map fun port => { line with sessionPort := port }
  else if option = "--output-latency-ms".toList then
    (parseOutputLatency value).map fun latency => { line with outputLatencyAdjustment := latency }
  else if option = "--room-name".toList ∧ line.mode = .host then
    .ok { line with roomName := value }
  else refuse option

/-- The loop over the options. -/
def readOptions (line : CommandLine) : List Text → Except Text CommandLine
  | [] => .ok line
  | [option] => refuse option
  | option :: value :: options =>
      match readOption line option value with
      | .error message => .error message
      | .ok line => readOptions line options

def readMode (word : Text) : Option Mode :=
  if word = "host".toList then some .host
  else if word = "client".toList then some .client
  else if word = "control".toList then some .control
  else if word = "room-client".toList then some .roomClient
  else none

/-- The ports that one process binds. -/
def PortsClash (line : CommandLine) : Prop :=
  line.audioPort = line.clockSyncPort ∨ line.mode = .host ∧
    (line.sessionPort = line.audioPort ∨ line.sessionPort = line.clockSyncPort)

instance (line : CommandLine) : Decidable line.PortsClash :=
  inferInstanceAs (Decidable (line.audioPort = line.clockSyncPort ∨ line.mode = .host ∧
    (line.sessionPort = line.audioPort ∨ line.sessionPort = line.clockSyncPort)))

/-- `parseCommandLine`. -/
def parse : List Text → Except Text CommandLine
  | [] => .error "Invalid command line".toList
  | [argument] => .ok { argument := argument }
  | word :: argument :: options =>
      match readMode word with
      | none => .error "Unknown mode".toList
      | some mode =>
          match readOptions { mode := mode, argument := argument } options with
          | .error message => .error message
          | .ok line =>
              if line.PortsClash then .error "Audio, clock, and session ports must differ".toList
              else .ok line

/-- The fields that options set. -/
inductive Field where
  | address
  | bind
  | port
  | controlPort
  | sessionPort
  | outputLatency
  | roomName
  deriving DecidableEq

/-- The option of a field. -/
def Field.option : Field → Text
  | .address => "--address".toList
  | .bind => "--bind".toList
  | .port => "--port".toList
  | .controlPort => "--control-port".toList
  | .sessionPort => "--session-port".toList
  | .outputLatency => "--output-latency-ms".toList
  | .roomName => "--room-name".toList

/-- The value of a field. -/
inductive Setting where
  | address (value : Text)
  | bind (value : Text)
  | port (port : UInt16)
  | controlPort (port : UInt16)
  | sessionPort (port : UInt16)
  | outputLatency (milliseconds : Int)
  | roomName (value : Text)
  deriving DecidableEq

namespace Setting

def field : Setting → Field
  | .address _ => .address
  | .bind _ => .bind
  | .port _ => .port
  | .controlPort _ => .controlPort
  | .sessionPort _ => .sessionPort
  | .outputLatency _ => .outputLatency
  | .roomName _ => .roomName

end Setting

def apply (line : CommandLine) : Setting → CommandLine
  | .address value => { line with destinationAddress := value }
  | .bind value => { line with bindAddress := value }
  | .port port => { line with audioPort := port }
  | .controlPort port => { line with clockSyncPort := port }
  | .sessionPort port => { line with sessionPort := port }
  | .outputLatency milliseconds => { line with outputLatencyAdjustment := milliseconds }
  | .roomName value => { line with roomName := value }

def setting (line : CommandLine) : Field → Setting
  | .address => .address line.destinationAddress
  | .bind => .bind line.bindAddress
  | .port => .port line.audioPort
  | .controlPort => .controlPort line.clockSyncPort
  | .sessionPort => .sessionPort line.sessionPort
  | .outputLatency => .outputLatency line.outputLatencyAdjustment
  | .roomName => .roomName line.roomName

/-- The text is a number of a port. -/
def IsPort (text : Text) (port : UInt16) : Prop :=
  text ≠ [] ∧ text.all Char.isDigit ∧ value text = port.toNat ∧ port ≠ 0

/-- The text is a latency in range. -/
def IsLatency (text : Text) (milliseconds : Int) : Prop :=
  intFromChars text = some milliseconds ∧ -1000 ≤ milliseconds ∧ milliseconds ≤ 1000

/-- An option of a mode with its value, and what it sets. -/
inductive Sets (mode : Mode) : Text × Text → Setting → Prop
  | address {value : Text} (h : mode = .host) :
      Sets mode ("--address".toList, value) (.address value)
  | bind {value : Text} (h : mode = .client) : Sets mode ("--bind".toList, value) (.bind value)
  | port {value : Text} {port : UInt16} (h : IsPort value port) :
      Sets mode ("--port".toList, value) (.port port)
  | controlPort {value : Text} {port : UInt16} (h : IsPort value port) :
      Sets mode ("--control-port".toList, value) (.controlPort port)
  | sessionPort {value : Text} {port : UInt16}
      (hmode : mode = .host ∨ mode = .control ∨ mode = .roomClient) (h : IsPort value port) :
      Sets mode ("--session-port".toList, value) (.sessionPort port)
  | outputLatency {value : Text} {milliseconds : Int} (h : IsLatency value milliseconds) :
      Sets mode ("--output-latency-ms".toList, value) (.outputLatency milliseconds)
  | roomName {value : Text} (h : mode = .host) :
      Sets mode ("--room-name".toList, value) (.roomName value)

/-- Options with their values, one after the other. -/
def words (options : List (Text × Text)) : List Text :=
  options.flatMap fun option => [option.1, option.2]

theorem words_injective : Function.Injective words := by
  intro options
  induction options with
  | nil =>
      intro others h
      cases others with
      | nil => rfl
      | cons => cases h
  | cons option options ih =>
      intro others h
      cases others with
      | nil => cases h
      | cons other others =>
          injection h with hname h
          injection h with hvalue h
          rw [Prod.ext hname hvalue, ih h]

variable {line next : CommandLine} {mode : Mode} {text argument word : Text}
  {option : Text × Text} {options others : List (Text × Text)} {settings : List Setting}

section Values

theorem toNat?_eq_some {bound n : Nat} : toNat? bound text = some n ↔
    text ≠ [] ∧ text.all Char.isDigit ∧ value text = n ∧ n < bound := by
  rw [toNat?, Option.ite_none_right_eq_some, Option.some_inj]
  constructor
  · rintro ⟨⟨hne, hdigits, hlt⟩, rfl⟩
    exact ⟨hne, hdigits, rfl, hlt⟩
  · rintro ⟨hne, hdigits, rfl, hlt⟩
    exact ⟨⟨hne, hdigits, hlt⟩, rfl⟩

theorem parsePort_ok_iff {port : UInt16} : parsePort text = .ok port ↔ IsPort text port := by
  have hnat (n : Nat) (hn : n ≤ 65535) : n.toUInt16.toNat = n := Nat.mod_eq_of_lt (by omega)
  rw [parsePort, unsignedFromChars]
  constructor
  · intro h
    cases hvalue : toNat? (2 ^ 32) text with
    | none =>
        rw [hvalue] at h
        cases h
    | some n =>
        rw [hvalue] at h
        obtain ⟨hne, hdigits, hn, -⟩ := toNat?_eq_some.mp hvalue
        simp only at h
        split_ifs at h with hrange
        cases h
        have hport := hnat n (by omega)
        refine ⟨hne, hdigits, hn.trans hport.symm, ?_⟩
        intro hzero
        rw [hzero] at hport
        exact hrange (.inl hport.symm)
  · rintro ⟨hne, hdigits, hn, hzero⟩
    have hlt := port.toNat_lt
    have hvalue : toNat? (2 ^ 32) text = some port.toNat :=
      toNat?_eq_some.mpr ⟨hne, hdigits, hn, by omega⟩
    have hrange : ¬ (port.toNat = 0 ∨ 65535 < port.toNat) := by
      rintro (h | h)
      · exact hzero (UInt16.toNat_inj.mp h)
      · omega
    rw [hvalue]
    simp only
    rw [if_neg hrange]
    exact congrArg Except.ok (UInt16.toNat_inj.mp (hnat _ (by omega)))

theorem parseOutputLatency_ok_iff {milliseconds : Int} :
    parseOutputLatency text = .ok milliseconds ↔ IsLatency text milliseconds := by
  rw [parseOutputLatency, IsLatency]
  cases intFromChars text with
  | none => simp
  | some value =>
      simp only [Option.some_inj]
      split_ifs with hrange
      · constructor
        · intro h
          cases h
        · rintro ⟨rfl, hlow, hhigh⟩
          omega
      · constructor
        · intro h
          cases h
          exact ⟨rfl, by omega, by omega⟩
        · rintro ⟨rfl, -, -⟩
          rfl

end Values

section Options

theorem map_ok_iff {α β : Type} {f : α → β} {result : Except Text α} {b : β} :
    result.map f = .ok b ↔ ∃ a, result = .ok a ∧ f a = b := by
  cases result with
  | error message =>
      constructor
      · intro h
        cases h
      · rintro ⟨a, h, -⟩
        cases h
  | ok a =>
      constructor
      · intro h
        exact ⟨a, rfl, Except.ok.inj h⟩
      · rintro ⟨_, h, rfl⟩
        cases h
        rfl

/-- An option that is accepted sets one field. -/
theorem readOption_ok_iff : readOption line option.1 option.2 = .ok next ↔
    ∃ setting, Sets line.mode option setting ∧ next = line.apply setting := by
  obtain ⟨option, value⟩ := option
  constructor
  · intro h
    rw [readOption] at h
    split_ifs at h with haddress hbind hport hcontrol hsession hlatency hroom
    · obtain ⟨rfl, hmode⟩ := haddress
      exact ⟨.address value, .address hmode, (Except.ok.inj h).symm⟩
    · obtain ⟨rfl, hmode⟩ := hbind
      exact ⟨.bind value, .bind hmode, (Except.ok.inj h).symm⟩
    · obtain ⟨port, hvalue, rfl⟩ := map_ok_iff.mp h
      subst hport
      exact ⟨.port port, .port (parsePort_ok_iff.mp hvalue), rfl⟩
    · obtain ⟨port, hvalue, rfl⟩ := map_ok_iff.mp h
      subst hcontrol
      exact ⟨.controlPort port, .controlPort (parsePort_ok_iff.mp hvalue), rfl⟩
    · obtain ⟨port, hvalue, rfl⟩ := map_ok_iff.mp h
      obtain ⟨rfl, hmode⟩ := hsession
      exact ⟨.sessionPort port, .sessionPort hmode (parsePort_ok_iff.mp hvalue), rfl⟩
    · obtain ⟨milliseconds, hvalue, rfl⟩ := map_ok_iff.mp h
      subst hlatency
      exact ⟨.outputLatency milliseconds,
        .outputLatency (parseOutputLatency_ok_iff.mp hvalue), rfl⟩
    · obtain ⟨rfl, hmode⟩ := hroom
      exact ⟨.roomName value, .roomName hmode, (Except.ok.inj h).symm⟩
    · cases h
  · rintro ⟨setting, hsets, rfl⟩
    cases hsets with
    | address hmode => simp [readOption, hmode, apply]
    | bind hmode => simp [readOption, hmode, apply]
    | port hport => simp [readOption, parsePort_ok_iff.mpr hport, apply, Except.map]
    | controlPort hport => simp [readOption, parsePort_ok_iff.mpr hport, apply, Except.map]
    | sessionPort hmode hport =>
        simp [readOption, hmode, parsePort_ok_iff.mpr hport, apply, Except.map]
    | outputLatency hlatency =>
        simp [readOption, parseOutputLatency_ok_iff.mpr hlatency, apply, Except.map]
    | roomName hmode => simp [readOption, hmode, apply]

@[simp] theorem apply_mode (line : CommandLine) (setting : Setting) :
    (line.apply setting).mode = line.mode := by
  cases setting <;> rfl

theorem foldl_apply_mode (settings : List Setting) (line : CommandLine) :
    (settings.foldl apply line).mode = line.mode := by
  induction settings generalizing line with
  | nil => rfl
  | cons setting settings ih => rw [List.foldl_cons, ih, apply_mode]

/-- Accepted options set their fields one after the other. -/
theorem readOptions_ok_iff {arguments : List Text} : readOptions line arguments = .ok next ↔
    ∃ options settings, arguments = words options ∧
      List.Forall₂ (Sets line.mode) options settings ∧ next = settings.foldl apply line := by
  induction line, arguments using readOptions.induct with
  | case1 line =>
      rw [readOptions]
      constructor
      · intro h
        exact ⟨[], [], rfl, .nil, (Except.ok.inj h).symm⟩
      · rintro ⟨options, settings, harguments, hsets, rfl⟩
        cases hsets with
        | nil => rfl
        | cons => cases harguments
  | case2 line option =>
      rw [readOptions]
      constructor
      · intro h
        cases h
      · rintro ⟨options, settings, harguments, hsets, rfl⟩
        cases hsets with
        | nil => cases harguments
        | cons => cases harguments
  | case3 line option value options message herror =>
      rw [readOptions, herror]
      constructor
      · intro h
        cases h
      · rintro ⟨_, settings, harguments, hsets, rfl⟩
        cases hsets with
        | nil => cases harguments
        | cons hfirst _ =>
            cases harguments
            have hok := readOption_ok_iff.mpr ⟨_, hfirst, rfl⟩
            exact absurd (herror.symm.trans hok) (by simp)
  | case4 line option value options after hok ih =>
      have hpair : readOption line (option, value).1 (option, value).2 = .ok after := hok
      obtain ⟨setting, hsetting, rfl⟩ := readOption_ok_iff.mp hpair
      rw [readOptions, hok]
      simp only [ih, apply_mode]
      constructor
      · rintro ⟨others, settings, rfl, hsets, rfl⟩
        exact ⟨(option, value) :: others, setting :: settings, rfl, .cons hsetting hsets, rfl⟩
      · rintro ⟨_, settings, harguments, hsets, rfl⟩
        cases hsets with
        | nil => cases harguments
        | @cons first _ others _ hfirst hothers =>
            cases harguments
            have hsame := readOption_ok_iff.mpr ⟨_, hfirst, rfl⟩
            have hline := Except.ok.inj (hok.symm.trans hsame)
            exact ⟨others, _, rfl, hothers, by rw [List.foldl_cons, hline]⟩

end Options

section Lines

/-- An option writes its own field and no other. -/
theorem keyedWrites :
    KeyedWrites Setting.field (fun line field => some (setting line field)) apply := by
  constructor
  intro line written field
  cases written with
  | address value => cases field <;> rfl
  | bind value => cases field <;> rfl
  | port port => cases field <;> rfl
  | controlPort port => cases field <;> rfl
  | sessionPort port => cases field <;> rfl
  | outputLatency milliseconds => cases field <;> rfl
  | roomName value => cases field <;> rfl

theorem Field.option_injective : Function.Injective Field.option := by
  intro first second h
  cases first <;> cases second <;> first | rfl | exact absurd h (by decide)

/-- The option of a setting names its field. -/
theorem Sets.option_eq {setting : Setting} (h : Sets mode option setting) :
    option.1 = setting.field.option := by
  cases h <;> rfl

theorem map_option (h : List.Forall₂ (Sets mode) options settings) :
    options.map Prod.fst = settings.map fun setting => setting.field.option := by
  induction h with
  | nil => rfl
  | cons hfirst _ ih => rw [List.map_cons, List.map_cons, hfirst.option_eq, ih]

theorem foldl_apply_argument (settings : List Setting) (line : CommandLine) :
    (settings.foldl apply line).argument = line.argument := by
  induction settings generalizing line with
  | nil => rfl
  | cons setting settings ih =>
      rw [List.foldl_cons, ih]
      cases setting <;> rfl

/-- A line is its mode, its argument and its fields. -/
theorem eq_of_settings (hmode : line.mode = next.mode) (hargument : line.argument = next.argument)
    (hsettings : ∀ field, setting line field = setting next field) : line = next := by
  have haddress := Setting.address.inj (hsettings .address)
  have hbind := Setting.bind.inj (hsettings .bind)
  have hport := Setting.port.inj (hsettings .port)
  have hcontrol := Setting.controlPort.inj (hsettings .controlPort)
  have hsession := Setting.sessionPort.inj (hsettings .sessionPort)
  have hlatency := Setting.outputLatency.inj (hsettings .outputLatency)
  have hroom := Setting.roomName.inj (hsettings .roomName)
  cases line
  cases next
  simp_all only

/-- Behind the mode and its argument, the options decide. -/
theorem parse_eq_ok_iff {arguments : List Text} :
    parse (word :: argument :: arguments) = .ok line ↔
      ∃ mode options settings, readMode word = some mode ∧ arguments = words options ∧
        List.Forall₂ (Sets mode) options settings ∧
          line = settings.foldl apply { mode := mode, argument := argument } ∧
            ¬ line.PortsClash := by
  rw [parse]
  cases hmode : readMode word with
  | none => simp
  | some mode =>
      simp only [Option.some_inj]
      constructor
      · intro h
        cases hoptions : readOptions { mode := mode, argument := argument } arguments with
        | error message =>
            rw [hoptions] at h
            cases h
        | ok read =>
            rw [hoptions] at h
            simp only at h
            split_ifs at h with hclash
            cases h
            obtain ⟨options, settings, hwords, hsets, hline⟩ := readOptions_ok_iff.mp hoptions
            exact ⟨mode, options, settings, rfl, hwords, hsets, hline, hclash⟩
      · rintro ⟨_, options, settings, rfl, hwords, hsets, hline, hclash⟩
        have hoptions := readOptions_ok_iff.mpr ⟨options, settings, hwords, hsets, hline⟩
        rw [hoptions]
        simp only
        rw [if_neg hclash]

/-- Different options lead to one line in any order. -/
theorem foldl_perm (hsets : List.Forall₂ (Sets mode) options settings)
    (hnodup : (options.map Prod.fst).Nodup) {written : List Setting}
    (hperm : settings.Perm written) (line : CommandLine) :
    settings.foldl apply line = written.foldl apply line := by
  have hconsistent : Consistent Setting.field settings := by
    intro first hfirst second hsecond hsame
    rw [map_option hsets] at hnodup
    exact List.inj_on_of_nodup_map hnodup hfirst hsecond (congrArg Field.option hsame)
  apply eq_of_settings
  · rw [foldl_apply_mode, foldl_apply_mode]
  · rw [foldl_apply_argument, foldl_apply_argument]
  · intro field
    exact Option.some.inj (keyedWrites.foldl_congr hconsistent (fun _ => hperm.mem_iff) field)

theorem parse_of_perm (hperm : options.Perm others) (hnodup : (options.map Prod.fst).Nodup)
    (h : parse (word :: argument :: words options) = .ok line) :
    parse (word :: argument :: words others) = .ok line := by
  obtain ⟨mode, read, settings, hmode, hwords, hsets, hline, hclash⟩ := parse_eq_ok_iff.mp h
  rw [← words_injective hwords] at hsets
  obtain ⟨written, hwritten, hsettings⟩ := List.perm_comp_forall₂ hperm.symm hsets
  refine parse_eq_ok_iff.mpr ⟨mode, others, written, hmode, rfl, hwritten, ?_, hclash⟩
  rw [hline, foldl_perm hsets hnodup hsettings.symm]

/-- The order of options does not matter as long as no option is given twice. -/
theorem parse_perm (hperm : options.Perm others) (hnodup : (options.map Prod.fst).Nodup) :
    parse (word :: argument :: words options) = .ok line ↔
      parse (word :: argument :: words others) = .ok line := by
  constructor
  · exact parse_of_perm hperm hnodup
  · exact parse_of_perm hperm.symm ((hperm.map Prod.fst).nodup_iff.mp hnodup)

/-- A host on another port with a name. -/
def namedHost : CommandLine where
  mode := .host
  argument := "a.wav".toList
  roomName := "Den".toList
  audioPort := 5000

theorem parse_perm_host :
    parse ("host".toList :: "a.wav".toList ::
        words [("--port".toList, "5000".toList), ("--room-name".toList, "Den".toList)]) =
          .ok namedHost ↔
      parse ("host".toList :: "a.wav".toList ::
        words [("--room-name".toList, "Den".toList), ("--port".toList, "5000".toList)]) =
          .ok namedHost :=
  parse_perm (.swap _ _ []) (by decide)

/-- The last option of a field sets what its last setting does. -/
theorem lastWrite_rel (hsets : List.Forall₂ (Sets mode) options settings) (field : Field) :
    Option.Rel (Sets mode) (lastWrite Prod.fst options field.option)
      (lastWrite Setting.field settings field) := by
  have hreverse := List.forall₂_reverse_iff.mpr hsets
  rw [lastWrite, lastWrite]
  generalize options.reverse = options, settings.reverse = settings at hreverse
  induction hreverse with
  | nil => exact .none
  | @cons option setting _ _ hfirst _ ih =>
      have hoption := hfirst.option_eq
      by_cases hfield : setting.field = field
      · rw [List.find?_cons_of_pos (by simp [hoption, hfield]),
          List.find?_cons_of_pos (by simp [hfield])]
        exact .some hfirst
      · have hother : option.1 ≠ field.option := by
          intro hsame
          exact hfield (Field.option_injective (hoption.symm.trans hsame))
        rw [List.find?_cons_of_neg (by simp [hother]),
          List.find?_cons_of_neg (by simp [hfield])]
        exact ih

/-- An accepted command line: options in pairs, each field with the value of its last option or
with its default, and ports that do not clash. -/
theorem accepted_line {arguments : List Text}
    (h : parse (word :: argument :: arguments) = .ok line) :
    ∃ options, arguments = words options ∧ readMode word = some line.mode ∧
      line.argument = argument ∧ ¬ line.PortsClash ∧
        ∀ field, (lastWrite Prod.fst options field.option).elim
          (setting line field = setting { argument := argument } field)
          fun option => Sets line.mode option (setting line field) := by
  obtain ⟨mode, options, settings, hmode, hwords, hsets, hline, hclash⟩ := parse_eq_ok_iff.mp h
  have hlineMode : line.mode = mode := by rw [hline, foldl_apply_mode]
  have hargument : line.argument = argument := by rw [hline, foldl_apply_argument]
  refine ⟨options, hwords, hlineMode ▸ hmode, hargument, hclash, ?_⟩
  intro field
  have hvalue := keyedWrites.value_foldl settings { mode := mode, argument := argument } field
  rw [← hline] at hvalue
  have hlast := lastWrite_rel hsets field
  generalize lastWrite Prod.fst options field.option = option,
    lastWrite Setting.field settings field = setting at hlast hvalue
  cases hlast with
  | none =>
      rw [Option.none_or] at hvalue
      have hdefault := Option.some.inj hvalue
      cases field <;> exact hdefault
  | some hset =>
      rw [Option.some_or] at hvalue
      rw [Option.elim_some, hlineMode, Option.some.inj hvalue]
      exact hset

theorem accepted_line_host : ∃ options,
    ["--port".toList, "80".toList, "--port".toList, "5000".toList, "--room-name".toList,
        "Den".toList] = words options ∧
      readMode "host".toList = some namedHost.mode ∧ namedHost.argument = "a.wav".toList ∧
        ¬ namedHost.PortsClash ∧
          ∀ field, (lastWrite Prod.fst options field.option).elim
            (setting namedHost field = setting { argument := "a.wav".toList } field)
            fun option => Sets namedHost.mode option (setting namedHost field) :=
  accepted_line rfl

end Lines

end CommandLine

end SyncAudio
