import Mathlib
import Drafting.Config

/-!
# Reading the settings file

`Settings.load` answers settings whatever stands at the path: nothing, a directory, or a file
with any bytes.  A file gives its own settings exactly when its bytes are UTF-8, its text does
not begin with a byte order mark and is JSON, and the value is an object whose sections
`server`, `cad` and `output` are each absent or an object (`Readable`).  The settings are then
those that `Settings.ofValue` reads from the object, and each of their seven fields is the
value under its key in its section, as it is, or the default where the section or the key is
absent.  Any other file gives the defaults whole: one section that is no object discards the
others with it (`settings_read_or_defaults`).

The JSON read is the common libraries' (`Json.parseWithin`): `NaN`, `Infinity` and long
integers are numbers, and a repeated key keeps its last value.
-/

namespace Drafting

/-! ### Sections and fields -/

/-- The names of the three sections of the settings object. -/
def Settings.parts : List String := ["server", "cad", "output"]

/-- A field of the settings: the section and the key it is read from, and where it stands. -/
structure Settings.Field where
  part : String
  key : String
  read : Settings → Value

/-- The seven fields of the settings. -/
def Settings.fields : List Settings.Field :=
  [⟨"server", "name", fun s => s.server.name⟩, ⟨"server", "version", fun s => s.server.version⟩,
   ⟨"cad", "type", fun s => s.cad.application⟩,
   ⟨"cad", "startup_wait_time", fun s => s.cad.startupWait⟩,
   ⟨"cad", "command_delay", fun s => s.cad.commandDelay⟩,
   ⟨"output", "directory", fun s => s.output.directory⟩,
   ⟨"output", "default_filename", fun s => s.output.defaultFilename⟩]

/-- A section of an object is absent or an object itself. -/
def SectionFits (d : List (String × Value)) (part : String) : Prop :=
  ∀ v, Value.lookup part d = some v → ∃ es, v = .dict es

/-- The entries of a section: those of the object under its name, none when it is absent. -/
def sectionOf (d : List (String × Value)) (part : String) : List (String × Value) :=
  match Value.lookup part d with
  | some (.dict es) => es
  | _ => []

/-! ### Reading an object of sections -/

theorem bind_eq_ok {α β : Type} {x : Except Fault α} {f : α → Except Fault β} {b : β}
    (h : x >>= f = .ok b) : ∃ a, x = .ok a ∧ f a = .ok b := by
  cases x with
  | error e => simp [bind, Except.bind] at h
  | ok a => exact ⟨a, rfl, h⟩

theorem ok_bind {α β : Type} (a : α) (f : α → Except Fault β) : (Except.ok a >>= f) = f a := rfl

theorem Value.get_dict (d : List (String × Value)) (key : String) (dflt : Value) :
    (Value.dict d).get key dflt = .ok ((Value.lookup key d).getD dflt) := rfl

/-- Only an object answers `get`. -/
theorem Value.get_eq_ok {v dflt x : Value} {key : String} (h : v.get key dflt = .ok x) :
    ∃ d, v = .dict d ∧ x = (Value.lookup key d).getD dflt := by
  cases v <;> simp_all [Value.get]

/-- A field read from a section that is absent reads its default; one read from a section
that is present reads the section, which must then be an object. -/
theorem get_section_eq_ok_iff {d : List (String × Value)} {part key : String} {dflt x : Value} :
    ((Value.lookup part d).getD (.dict [])).get key dflt = .ok x ↔
      SectionFits d part ∧ x = (Value.lookup key (sectionOf d part)).getD dflt := by
  cases hpart : Value.lookup part d with
  | none => simp [Value.get, sectionOf, SectionFits, hpart, Value.lookup, eq_comm]
  | some v => cases v <;> simp [Value.get, sectionOf, SectionFits, hpart, eq_comm]

/-- Settings are read from an object whose sections are each absent or an object; by
following the reads of `Settings.ofValue` one after the other. -/
theorem sections_fit_of_ofValue {v : Value} {s : Settings} (h : Settings.ofValue v = .ok s) :
    ∃ d, v = .dict d ∧ ∀ part ∈ Settings.parts, SectionFits d part := by
  unfold Settings.ofValue at h
  obtain ⟨server, hserver, h⟩ := bind_eq_ok h
  obtain ⟨cad, hcad, h⟩ := bind_eq_ok h
  obtain ⟨output, houtput, h⟩ := bind_eq_ok h
  obtain ⟨_, hname, h⟩ := bind_eq_ok h
  obtain ⟨_, -, h⟩ := bind_eq_ok h
  obtain ⟨_, htype, h⟩ := bind_eq_ok h
  obtain ⟨_, -, h⟩ := bind_eq_ok h
  obtain ⟨_, -, h⟩ := bind_eq_ok h
  obtain ⟨_, hdirectory, -⟩ := bind_eq_ok h
  -- the value answered `get`, so it is an object; each section answered its first field
  obtain ⟨d, rfl, rfl⟩ := Value.get_eq_ok hserver
  obtain ⟨_, hcad', rfl⟩ := Value.get_eq_ok hcad
  obtain ⟨_, houtput', rfl⟩ := Value.get_eq_ok houtput
  cases hcad'
  cases houtput'
  refine ⟨d, rfl, ?_⟩
  simp only [Settings.parts, List.mem_cons, List.not_mem_nil, or_false]
  rintro part (rfl | rfl | rfl)
  · exact (get_section_eq_ok_iff.mp hname).1
  · exact (get_section_eq_ok_iff.mp htype).1
  · exact (get_section_eq_ok_iff.mp hdirectory).1

/-- From an object whose sections are each absent or an object, settings are read, and each
field is the value under its key in its section, as it is, or else its default. -/
theorem ofValue_fields {d : List (String × Value)} (hfits : ∀ part ∈ Settings.parts, SectionFits d part) :
    ∃ s, Settings.ofValue (.dict d) = .ok s ∧
      ∀ fld ∈ Settings.fields, fld.read s = (Value.lookup fld.key (sectionOf d fld.part)).getD (fld.read {}) := by
  have hget : ∀ part ∈ Settings.parts, ∀ key dflt,
      ((Value.lookup part d).getD (.dict [])).get key dflt =
        .ok ((Value.lookup key (sectionOf d part)).getD dflt) :=
    fun part hpart key dflt => get_section_eq_ok_iff.mpr ⟨hfits part hpart, rfl⟩
  refine ⟨?s, ?read, ?fields⟩
  case read =>
    simp only [Settings.ofValue, Value.get_dict, ok_bind, hget "server" (by simp [Settings.parts]),
      hget "cad" (by simp [Settings.parts]), hget "output" (by simp [Settings.parts])]
    rfl
  case fields => simp [Settings.fields]

/-! ### Reading the file -/

/-- The bytes of a settings file hold the object `d`: they are UTF-8, and their text does not
begin with a byte order mark and is JSON whose value is `d`, an object each section of which is
absent or an object. -/
structure Readable (data : List UInt8) (d : List (String × Value)) : Prop where
  json : ∃ text, Text.decodeUtf8 data = some text ∧ text.head? ≠ some (Char.ofNat 0xFEFF) ∧
    Json.parseWithin Settings.nestingRoom (String.ofList text) = some (.dict d)
  sections : ∀ part ∈ Settings.parts, SectionFits d part

theorem head?_bom_iff (text : List Char) :
    (text.head?.map Char.toNat == some 0xFEFF) = true ↔ text.head? = some (Char.ofNat 0xFEFF) := by
  cases text with
  | nil => simp
  | cons c rest =>
    simp only [List.head?_cons, Option.map_some, beq_iff_eq, Option.some.injEq]
    exact ⟨fun h => Char.toNat_inj.mp (by rw [h]; rfl), fun h => by rw [h]; rfl⟩

/-- The settings a readable file holds are those read from its object. -/
theorem load_of_readable {data : List UInt8} {d : List (String × Value)} (h : Readable data d)
    {s : Settings} (hs : Settings.ofValue (.dict d) = .ok s) : Settings.load (.bytes data) = s := by
  obtain ⟨text, hdecode, hbom, hparse⟩ := h.json
  have hbom' : (text.head?.map Char.toNat == some 0xFEFF) = false :=
    Bool.eq_false_iff.mpr fun h => hbom ((head?_bom_iff text).mp h)
  simp [Settings.load, hdecode, Settings.ofText, hbom', hparse, hs]

/-- A file that holds no readable object gives the defaults; by following the reading down to
the step that fails. -/
theorem load_of_unreadable {data : List UInt8} (h : ∀ d, ¬Readable data d) :
    Settings.load (.bytes data) = {} := by
  cases hdecode : Text.decodeUtf8 data with
  | none => simp [Settings.load, hdecode]
  | some text =>
    simp only [Settings.load, hdecode, Option.bind_some, Settings.ofText]
    split
    · rfl
    · rename_i hbom
      cases hparse : Json.parseWithin Settings.nestingRoom (String.ofList text) with
      | none => simp
      | some v =>
        cases hs : Settings.ofValue v with
        | error e => simp [hs]
        | ok s =>
          -- the object was read, so the file was readable after all
          obtain ⟨d, rfl, hfits⟩ := sections_fit_of_ofValue hs
          exact absurd ⟨⟨text, hdecode, fun hhead => hbom ((head?_bom_iff text).mpr hhead), hparse⟩,
            hfits⟩ (h d)

/-- Loading the settings never fails.  Nothing at the path and a directory give the defaults.
A file whose bytes hold a readable object `d` gives the settings that `Settings.ofValue` reads
from `d`, each field of which is the value under its key in its section, as it is, or else its
default; any other file gives the defaults whole. -/
theorem settings_read_or_defaults (data : List UInt8) :
    Settings.load .missing = {} ∧ Settings.load .directory = {} ∧
      (∀ d, Readable data d →
        Settings.ofValue (.dict d) = .ok (Settings.load (.bytes data)) ∧
          ∀ fld ∈ Settings.fields, fld.read (Settings.load (.bytes data)) =
            (Value.lookup fld.key (sectionOf d fld.part)).getD (fld.read {})) ∧
      ((∀ d, ¬Readable data d) → Settings.load (.bytes data) = {}) := by
  refine ⟨rfl, rfl, fun d hd => ?_, load_of_unreadable⟩
  obtain ⟨s, hs, hfields⟩ := ofValue_fields hd.sections
  rw [load_of_readable hd hs]
  exact ⟨hs, hfields⟩

end Drafting
