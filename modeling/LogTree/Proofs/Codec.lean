import LogTree.Config.Load
import LogTree.Proofs.RoundTrip

/-!
Configurations as text. Which text stands for which document is the business of a `Codec`; all that is
asked of one is that it keeps documents (`Codec.Keeps`). Main statements: `toml_round_trip` and
`json_round_trip`.
-/
namespace LogTree.Config
open Data

theorem ok_of_bind {ε α β : Type} {x : Except ε α} {next : α → Except ε β} {b : β}
    (done : (x >>= next) = .ok b) : ∃ a, x = .ok a ∧ next a = .ok b := by
  cases x with
  | error e => cases done
  | ok a => exact ⟨a, rfl, done⟩

/-- Reading and writing documents of a format as text. -/
structure Codec where
  format : Format
  write? : Data → Option String
  read? : String → Option Data

namespace Format

/-- The floats that a format has numbers for. -/
def keeps : Format → Float → Bool
  | .toml, _ => true
  | .json, x => x.isFinite

def write : Format → Data → String
  | .toml, d => Toml.pretty d
  | .json, d => Json.pretty d

def codec (f : Format) : Codec := ⟨f, fun d => some (f.write d), f.read?⟩

end Format

namespace Codec

def parse (n : Codec) (s : String) : Except ConfigError Blueprint :=
  match (n.read? s).bind (Blueprint.ofData? n.format.dialect) with
  | some b => .ok b
  | none => .error n.format.parseError

def load (n : Codec) (s : String) : Except ConfigError Blueprint := do
  let b ← n.parse s
  b.validate
  .ok b

theorem load_codec (f : Format) (s : String) : f.codec.load s = Blueprint.load f s := rfl

theorem load_of_parse {n : Codec} {s : String} {b : Blueprint} (parsed : n.parse s = .ok b)
    (valid : b.validate = .ok ()) : n.load s = .ok b := by
  rw [load, parsed]
  exact congrArg (fun answer => answer >>= fun _ => Except.ok b) valid

theorem valid_of_load {n : Codec} {s : String} {b : Blueprint} (loaded : n.load s = .ok b) :
    b.validate = .ok () := by
  obtain ⟨c, _, checked⟩ := ok_of_bind loaded
  obtain ⟨_, valid, same⟩ := ok_of_bind checked
  rwa [← Except.ok.inj same]

/-- What is written of the document is read as the same document again, but for floats without a number. -/
def Keeps (n : Codec) (d : Data) : Prop :=
  ∃ t e, n.write? d = some t ∧ n.read? t = some e ∧ (d.stored n.format.keeps).Same e

theorem keeps_iff_any {n : Codec} {d : Data} :
    n.Keeps d ↔
      (((n.write? d).bind n.read?).any fun e => decide ((d.stored n.format.keeps).Same e)) := by
  rw [Option.any_eq_true]
  constructor
  · rintro ⟨t, e, written, read, same⟩
    exact ⟨e, Option.bind_eq_some_iff.mpr ⟨t, written, read⟩, decide_eq_true same⟩
  · rintro ⟨e, both, same⟩
    obtain ⟨t, written, read⟩ := Option.bind_eq_some_iff.mp both
    exact ⟨t, e, written, read, of_decide_eq_true same⟩

instance (n : Codec) (d : Data) : Decidable (n.Keeps d) := decidable_of_iff' _ keeps_iff_any

theorem load_written {n : Codec} {b : Blueprint} (valid : b.validate = .ok ())
    (keeps : n.Keeps b.data) :
    ∃ t, n.write? b.data = some t ∧
      n.load t = if b.floats.all n.format.keeps then .ok b else .error n.format.parseError := by
  obtain ⟨t, e, written, read, same⟩ := keeps
  refine ⟨t, written, ?_⟩
  have answer := b.reads_data n.format.dialect n.format.keeps e same
  cases all : b.floats.all n.format.keeps with
  | true =>
    rw [all, if_pos rfl] at answer
    have parsed : n.parse t = .ok b := by rw [parse, read, Option.bind_some, answer]
    rw [load_of_parse parsed valid, if_pos rfl]
  | false =>
    rw [all] at answer
    have refused : n.parse t = .error n.format.parseError := by
      rw [parse, read, Option.bind_some, answer]
      rfl
    rw [load, refused]
    rfl

/-- What a reader of any format accepts is written as TOML, and the text is read as the same
configuration, which is written as the same text. -/
theorem toml_round_trip {n T : Codec} {s : String} {b : Blueprint} (toml : T.format = .toml)
    (loaded : n.load s = .ok b) (faithful : b.data.IsDocument → T.Keeps b.data) :
    ∃ t, T.write? b.data = some t ∧ T.load t = .ok b ∧
      ∀ c, T.load t = .ok c → T.write? c.data = some t := by
  obtain ⟨t, written, answer⟩ := load_written (valid_of_load loaded) (faithful b.isDocument_data)
  have all : b.floats.all T.format.keeps = true := by
    rw [toml]
    exact List.all_eq_true.mpr fun _ _ => rfl
  rw [if_pos all] at answer
  refine ⟨t, written, answer, fun c again => ?_⟩
  rwa [← Except.ok.inj (answer.symm.trans again)]

theorem exists_loaded {f : Format} {s : String} {p : Blueprint → Bool}
    (run : (Blueprint.load f s).toOption.any p = true) :
    ∃ b, Blueprint.load f s = .ok b ∧ p b = true := by
  cases loaded : Blueprint.load f s with
  | error e =>
    rw [loaded] at run
    contradiction
  | ok b =>
    rw [loaded] at run
    exact ⟨b, rfl, run⟩

/-- Values that look alike are told apart by how they are written. -/
theorem toml_round_trip_values :
    let text := "[[sinks]]\nname = 'a'\nsink_type = 'memory'\n[root]\nstrategy = 'router'\n" ++
      "[[root.routes]]\npredicates = [\x7b type = 'attr_value_is', attrs = \x7b v = nan, w = inf, " ++
      "x = 3, y = 3.0, z = '3' \x7d \x7d]\ntarget = \x7b strategy = 'sink', name = 'a' \x7d\n"
    ∃ b, Blueprint.load .toml text = .ok b ∧ b.floats.length = 3 ∧
      Blueprint.load .toml b.toToml = .ok b := by
  intro text
  have run : (Blueprint.load .toml text).toOption.any (fun b =>
      decide (Format.toml.codec.Keeps b.data) && b.floats.length == 3) = true := by decide +kernel
  obtain ⟨b, loaded, good⟩ := exists_loaded run
  rw [Bool.and_eq_true, decide_eq_true_eq, beq_iff_eq] at good
  obtain ⟨t, written, again, _⟩ := toml_round_trip rfl ((load_codec _ _).trans loaded) fun _ => good.1
  obtain rfl : b.toToml = t := Option.some.inj written
  exact ⟨b, loaded, good.2, (load_codec _ _).symm.trans again⟩

/-- What a reader of any format accepts is written as JSON. The text is read as the same configuration if
every float of its predicates is finite; otherwise a number is missing there and it is refused. -/
theorem json_round_trip {n J : Codec} {s : String} {b : Blueprint} (json : J.format = .json)
    (loaded : n.load s = .ok b) (faithful : b.data.IsDocument → J.Keeps b.data) :
    ∃ t, J.write? b.data = some t ∧
      J.load t = if b.floats.all Float.isFinite then .ok b else .error Format.json.parseError := by
  have answer := load_written (valid_of_load loaded) (faithful b.isDocument_data)
  rwa [json] at answer

theorem json_round_trip_pool :
    let text := "[[sinks]]\nname = 'a'\nsink_type = 'log'\n[root]\nstrategy = 'pool'\n" ++
      "[[root.members]]\nstrategy = 'sink'\nname = 'a'\n"
    ∃ b, Blueprint.load .toml text = .ok b ∧ Blueprint.load .json b.toJson = .ok b := by
  intro text
  have run : (Blueprint.load .toml text).toOption.any (fun b =>
      decide (Format.json.codec.Keeps b.data) && b.floats.isEmpty) = true := by decide +kernel
  obtain ⟨b, loaded, good⟩ := exists_loaded run
  rw [Bool.and_eq_true, decide_eq_true_eq, List.isEmpty_iff] at good
  obtain ⟨t, written, again⟩ := json_round_trip rfl ((load_codec _ _).trans loaded) fun _ => good.1
  obtain rfl : b.toJson = t := Option.some.inj written
  rw [good.2] at again
  exact ⟨b, loaded, (load_codec _ _).symm.trans again⟩

/-- Infinity can be compared with, and JSON has no number for it. -/
theorem json_refuses_infinity :
    let text := "[[sinks]]\nname = 'a'\nsink_type = 'memory'\n[root]\nstrategy = 'router'\n" ++
      "[[root.routes]]\npredicates = [\x7b type = 'attr_value_is', attrs = \x7b x = inf \x7d \x7d]\n" ++
      "target = \x7b strategy = 'sink', name = 'a' \x7d\n"
    ∃ b, Blueprint.load .toml text = .ok b ∧
      Blueprint.load .json b.toJson = .error Format.json.parseError := by
  intro text
  have run : (Blueprint.load .toml text).toOption.any (fun b =>
      decide (Format.json.codec.Keeps b.data) && !b.floats.all Float.isFinite) = true := by
    decide +kernel
  obtain ⟨b, loaded, good⟩ := exists_loaded run
  rw [Bool.and_eq_true, decide_eq_true_eq, Bool.not_eq_true'] at good
  obtain ⟨t, written, again⟩ := load_written (valid_of_load ((load_codec _ _).trans loaded)) good.1
  obtain rfl : b.toJson = t := Option.some.inj written
  have missing : b.floats.all Format.json.codec.format.keeps = false := good.2
  rw [missing] at again
  exact ⟨b, loaded, (load_codec _ _).symm.trans again⟩

end Codec
end LogTree.Config
