import Mathlib.Algebra.Group.Nat.Defs
import Mathlib.Tactic.Common

/-!
Readers of sequential formats, and the law that ties a reader to what is written.

A reader consumes tokens from the front of its input. `Reads read write valid` says that the
reader accepts exactly the valid values, each in the one form in which it is written, and leaves
what follows. The law is closed under sequencing, so a reader of a record has it field by field.
-/

namespace Codec

variable {τ ε α β : Type}

/-- Reads a value from the front of a list of tokens and keeps the rest, or fails. -/
abbrev Reader (τ ε : Type) := StateT (List τ) (Except ε)

lemma bind_run_ok {read} {next : α → Reader τ ε β} {input r} : (read >>= next).run input = .ok r ↔
      ∃ a tail, read.run input = .ok (a, tail) ∧ (next a).run tail = .ok r := by
  rw [StateT.run_bind]
  cases h : read.run input with
  | error e => exact ⟨nofun, by rintro ⟨a, tail, heq, -⟩; cases heq⟩
  | ok pair =>
    refine ⟨fun hnext => ⟨pair.1, pair.2, rfl, hnext⟩, ?_⟩
    rintro ⟨a, tail, heq, hnext⟩
    cases heq
    exact hnext

lemma bind_run_eq {read} {next : α → Reader τ ε β} {input tail a}
    (h : read.run input = .ok (a, tail)) : (read >>= next).run input = (next a).run tail := by
  rw [StateT.run_bind, h]
  rfl

lemma pure_run_ok {a v input rest} :
    (pure a : Reader τ ε α).run input = .ok (v, rest) ↔ a = v ∧ input = rest := by
  rw [StateT.run_pure]
  exact ⟨fun h => by cases h; exact ⟨rfl, rfl⟩, by rintro ⟨rfl, rfl⟩; rfl⟩

lemma map_run_ok {read : Reader τ ε α} {f : α → β} {input rest v} :
    (f <$> read).run input = .ok (v, rest) ↔ ∃ a, read.run input = .ok (a, rest) ∧ f a = v := by
  rw [← bind_pure_comp, bind_run_ok]
  constructor
  · rintro ⟨a, tail, hread, hpure⟩
    obtain ⟨rfl, rfl⟩ := pure_run_ok.mp hpure
    exact ⟨a, hread, rfl⟩
  · rintro ⟨a, hread, rfl⟩
    exact ⟨a, rest, hread, pure_run_ok.mpr ⟨rfl, rfl⟩⟩

/-- A check between two reads takes nothing from the input. -/
lemma lift_bind_run_ok {check : Except ε α} {next : α → Reader τ ε β} {input r}
    : ((liftM check : Reader τ ε α) >>= next).run input = .ok r ↔
      ∃ a, check = .ok a ∧ (next a).run input = .ok r := by
  rw [bind_run_ok]
  constructor
  · rintro ⟨a, tail, hcheck, hnext⟩
    cases check with
    | error e => cases hcheck
    | ok a' => cases hcheck; exact ⟨a, rfl, hnext⟩
  · rintro ⟨a, rfl, hnext⟩
    exact ⟨a, input, rfl, hnext⟩

/-- `read` accepts exactly the valid values, each as it is written, and leaves the rest. -/
structure Reads (read : Reader τ ε α) (write : α → List τ) (valid : α → Prop) : Prop where
  iff : ∀ {input v rest}, read.run input = .ok (v, rest) ↔ valid v ∧ input = write v ++ rest

namespace Reads

variable {read : Reader τ ε α} {write : α → List τ} {valid : α → Prop}

lemma step (h : Reads read write valid) {next} {input : List τ}
    {r : β × List τ} : (read >>= next).run input = .ok r ↔
      ∃ a tail, valid a ∧ input = write a ++ tail ∧ (next a).run tail = .ok r := by
  rw [bind_run_ok]
  exact exists₂_congr fun a tail => by rw [h.iff, and_assoc]

lemma round_trip (h : Reads read write valid) {v} (hv : valid v) (rest : List τ) :
    read.run (write v ++ rest) = .ok (v, rest) :=
  h.iff.mpr ⟨hv, rfl⟩

/-- No proper beginning of a written value is accepted. -/
lemma prefix_refused (h : Reads read write valid) {v} (hv : valid v) {input tail}
    (heq : input ++ tail = write v) (htail : tail ≠ []) (r : α × List τ) :
    read.run input ≠ .ok r := by
  intro hread
  obtain ⟨hvalid, rfl⟩ := h.iff.mp hread
  -- the value read here would also be read from the whole, with something left over
  have hwhole : read.run (write v) = .ok (r.1, r.2 ++ tail) :=
    h.iff.mpr ⟨hvalid, by rw [← heq, List.append_assoc]⟩
  have hexact : read.run (write v) = .ok (v, []) := by
    simpa using h.round_trip hv []
  obtain ⟨-, hrest⟩ := Prod.mk.inj (Except.ok.inj (hwhole.symm.trans hexact))
  exact htail (List.append_eq_nil_iff.mp hrest).2

lemma map (h : Reads read write valid) {f : α → β} {valid'} (g : β → α)
    (hleft : ∀ a, valid a → valid' (f a) ∧ g (f a) = a)
    (hright : ∀ b, valid' b → valid (g b) ∧ f (g b) = b) :
    Reads (f <$> read) (fun b => write (g b)) valid' := by
  refine ⟨fun {input v rest} => ?_⟩
  rw [map_run_ok]
  constructor
  · rintro ⟨a, hread, rfl⟩
    obtain ⟨hvalid, rfl⟩ := h.iff.mp hread
    obtain ⟨hvalid', heq⟩ := hleft a hvalid
    exact ⟨hvalid', by simp only [heq]⟩
  · rintro ⟨hvalid', rfl⟩
    obtain ⟨hvalid, heq⟩ := hright v hvalid'
    exact ⟨g v, h.round_trip hvalid rest, heq⟩

lemma inject (h : Reads read write valid) {f : α → β} {write'}
    (hwrite : ∀ a, write' (f a) = write a) :
    Reads (f <$> read) write' fun b => ∃ a, valid a ∧ f a = b := by
  refine ⟨fun {input v rest} => ?_⟩
  rw [map_run_ok]
  constructor
  · rintro ⟨a, hread, rfl⟩
    obtain ⟨hvalid, rfl⟩ := h.iff.mp hread
    exact ⟨⟨a, hvalid, rfl⟩, by rw [hwrite]⟩
  · rintro ⟨⟨a, hvalid, rfl⟩, rfl⟩
    exact ⟨a, by rw [hwrite]; exact h.round_trip hvalid rest, rfl⟩

lemma congr (h : Reads read write valid) {valid'} (hv : ∀ v, valid v ↔ valid' v) :
    Reads read write valid' :=
  ⟨fun {_ v _} => by rw [← hv v, h.iff]⟩

end Reads

/-! ### Records

A record is read field by field and put together at the end. While it is read, `fill` puts together
what has been read and, for the fields that are still to come, what a given record has there. -/

/-- `read` finishes a record: it accepts the valid records whose earlier fields are those read so
far, and leaves what follows. -/
structure Builds (read : Reader τ ε β) (fill : β → β) (write : β → List τ) (valid : β → Prop) :
    Prop where
  iff : ∀ {input b rest}, read.run input = .ok (b, rest) ↔
    fill b = b ∧ valid b ∧ input = write b ++ rest

lemma Builds.done (b : β) :
    Builds (pure b : Reader τ ε β) (fun _ => b) (fun _ => []) fun _ => True :=
  ⟨by simp only [pure_run_ok, true_and, List.nil_append, implies_true]⟩

/-- How the fields that `read` reads are written, and which values they may have. -/
class Field (read : Reader τ ε α) (write : outParam (α → List τ))
    (valid : outParam (α → Prop)) : Prop extends Reads read write valid

/-- A reader of a whole record; the fields determine the record. -/
lemma Field.record {read : Reader τ ε β} {fill write valid valid'}
    (h : Builds read fill write valid) (hfill : ∀ b, fill b = b)
    (hvalid : ∀ b, valid b ↔ valid' b) : Field read write valid' where
  iff {_ b _} := by rw [h.iff, hvalid b]; exact and_iff_right (hfill b)

lemma Builds.next {read write} {valid : α → Prop}
    {next : α → Reader τ ε β} {fill : α → β → β} {writeRest validRest}
    [h : Field read write valid] (get : β → α)
    (hnext : ∀ a, Builds (next a) (fill a) writeRest validRest) (hget : ∀ a b, get (fill a b) = a) :
    Builds (read >>= next) (fun b => fill (get b) b) (fun b => write (get b) ++ writeRest b)
      fun b => valid (get b) ∧ validRest b := by
  refine ⟨fun {input b rest} => ?_⟩
  rw [h.toReads.step]
  constructor
  · rintro ⟨a, tail, ha, rfl, hrest⟩
    obtain ⟨hfill, hvalid, rfl⟩ := (hnext a).iff.mp hrest
    obtain rfl : get b = a := by rw [← hfill, hget]
    exact ⟨hfill, ⟨ha, hvalid⟩, (List.append_assoc ..).symm⟩
  · rintro ⟨hfill, ⟨ha, hvalid⟩, rfl⟩
    exact ⟨get b, _, ha, List.append_assoc .., (hnext _).iff.mpr ⟨hfill, hvalid, rfl⟩⟩

/-! ### Repetition -/

def readList (read : Reader τ ε α) : Nat → Reader τ ε (List α)
  | 0 => pure []
  | n + 1 => do
    let a ← read
    let as ← readList read n
    return a :: as

lemma Reads.list {read : Reader τ ε α} {write} {valid : α → Prop}
    (h : Reads read write valid) (n : Nat) :
    Reads (readList read n) (List.flatMap write) fun vs => vs.length = n ∧ ∀ v ∈ vs, valid v := by
  induction n with
  | zero =>
    refine ⟨fun {input vs rest} => ?_⟩
    rw [readList, pure_run_ok]
    constructor
    · rintro ⟨rfl, rfl⟩
      exact ⟨⟨rfl, by simp⟩, rfl⟩
    · rintro ⟨⟨hlength, -⟩, rfl⟩
      rw [List.length_eq_zero_iff.mp hlength]
      exact ⟨rfl, rfl⟩
  | succ n ih =>
    refine ⟨fun {input vs rest} => ?_⟩
    rw [readList, h.step]
    simp only [ih.step, pure_run_ok]
    constructor
    · rintro ⟨a, _, ha, rfl, as, _, ⟨rfl, has⟩, rfl, rfl, rfl⟩
      exact ⟨⟨rfl, by simpa using ⟨ha, has⟩⟩, by simp⟩
    · rintro ⟨⟨hlength, hvs⟩, rfl⟩
      obtain ⟨a, as, rfl⟩ := List.exists_cons_of_length_eq_add_one hlength
      simp only [List.mem_cons, forall_eq_or_imp] at hvs
      exact ⟨a, _, hvs.1, by simp, as, _, ⟨by simpa using hlength, hvs.2⟩, rfl, rfl, rfl⟩

def readTokens (n : Nat) (short : List τ → ε) : Reader τ ε (List τ) := fun input =>
  if input.length < n then .error (short input) else .ok (input.take n, input.drop n)

lemma reads_tokens (n : Nat) (short : List τ → ε) :
    Reads (readTokens n short) id fun tokens => tokens.length = n := by
  refine ⟨fun {input v rest} => ?_⟩
  change readTokens n short input = _ ↔ _
  unfold readTokens
  split
  · rename_i hshort
    refine ⟨nofun, ?_⟩
    rintro ⟨rfl, rfl⟩
    simp only [id, List.length_append] at hshort
    omega
  rename_i hlong
  constructor
  · intro h
    cases h
    exact ⟨List.length_take_of_le (Nat.le_of_not_lt hlong), (List.take_append_drop n input).symm⟩
  · rintro ⟨rfl, rfl⟩
    simp

/-! ### Streams

A stream is one written value after the other. It may be cut anywhere. -/

/-- How many of the values are written wholly within the first `n` tokens. -/
def contained (write : α → List τ) : List α → Nat → Nat
  | [], _ => 0
  | v :: vs, n =>
    if (write v).length ≤ n then contained write vs (n - (write v).length) + 1 else 0

lemma contained_le (write : α → List τ) (vs : List α) : ∀ n, contained write vs n ≤ vs.length := by
  induction vs with
  | nil => exact fun _ => Nat.le_refl _
  | cons v vs ih =>
    intro n
    unfold contained
    split
    · exact Nat.succ_le_succ (ih _)
    · exact Nat.zero_le _

lemma le_contained (write : α → List τ) (vs : List α) : ∀ {k n}, k ≤ vs.length →
    ((vs.take k).flatMap write).length ≤ n → k ≤ contained write vs n := by
  induction vs with
  | nil => exact fun hk _ => hk
  | cons v vs ih =>
    intro k n hk hn
    cases k with
    | zero => exact Nat.zero_le _
    | succ k =>
      rw [List.take_succ_cons, List.flatMap_cons, List.length_append] at hn
      rw [contained, if_pos (by omega)]
      exact Nat.succ_le_succ (ih (Nat.le_of_succ_le_succ hk) (by omega))

lemma length_take_flatMap_mono (write : α → List τ) (vs : List α) {k n} (h : k ≤ n) :
    ((vs.take k).flatMap write).length ≤ ((vs.take n).flatMap write).length := by
  have hsplit : vs.take n = vs.take k ++ (vs.take n).drop k := by
    have htake := List.take_append_drop k (vs.take n)
    rw [List.take_take, Nat.min_eq_left h] at htake
    exact htake.symm
  rw [hsplit, List.flatMap_append, List.length_append]
  exact Nat.le_add_right ..

/-- A cut stream is the values wholly within the cut and a proper beginning of the next one. -/
lemma take_stream (write : α → List τ) (vs : List α) : ∀ n, n ≤ (vs.flatMap write).length →
    ∃ torn, (vs.flatMap write).take n = (vs.take (contained write vs n)).flatMap write ++ torn ∧
      (torn = [] ∨ ∃ v ∈ vs, ∃ tail, tail ≠ [] ∧ torn ++ tail = write v) := by
  induction vs with
  | nil => exact fun n _ => ⟨[], by simp [contained], .inl rfl⟩
  | cons v vs ih =>
    intro n hn
    rw [List.flatMap_cons, List.length_append] at hn
    rw [contained, List.flatMap_cons, List.take_append]
    by_cases hle : (write v).length ≤ n
    · obtain ⟨torn, htake, htorn⟩ := ih (n - (write v).length) (by omega)
      refine ⟨torn, ?_, ?_⟩
      · rw [if_pos hle, List.take_succ_cons, List.flatMap_cons, htake, List.take_of_length_le hle,
          List.append_assoc]
      · refine htorn.imp_right ?_
        rintro ⟨v', hv', h⟩
        exact ⟨v', List.mem_cons_of_mem _ hv', h⟩
    refine ⟨(write v).take n, ?_, .inr ⟨v, List.mem_cons_self, (write v).drop n, ?_, ?_⟩⟩
    · rw [if_neg hle, Nat.sub_eq_zero_of_le (by omega)]
      simp
    · rw [Ne, List.drop_eq_nil_iff]
      exact hle
    · exact List.take_append_drop n _

/-- Reads values until one is refused, or a number of them has been read. -/
def readUntil (read : Reader τ ε α) : Nat → List τ → List α × Option ε
  | 0, _ => ([], none)
  | n + 1, input =>
    match read.run input with
    | .error e => ([], some e)
    | .ok (v, rest) => (v :: (readUntil read n rest).1, (readUntil read n rest).2)

lemma Reads.readUntil_stream {read : Reader τ ε α} {write valid}
    (h : Reads read write valid) {torn} (htorn : ∀ r, read.run torn ≠ .ok r) :
    ∀ {vs : List α} {n : Nat}, (∀ v ∈ vs, valid v) → vs.length < n →
      ∃ e, readUntil read n (vs.flatMap write ++ torn) = (vs, some e) := by
  intro vs
  induction vs with
  | nil =>
    intro n _ hn
    obtain ⟨n, rfl⟩ : ∃ m, n = m + 1 := ⟨n - 1, by simp at hn; omega⟩
    cases hrun : read.run torn with
    | ok r => exact absurd hrun (htorn r)
    | error e => exact ⟨e, by simp [readUntil, hrun]⟩
  | cons v vs ih =>
    intro n hvs hn
    obtain ⟨n, rfl⟩ : ∃ m, n = m + 1 := ⟨n - 1, by simp at hn; omega⟩
    simp only [List.mem_cons, forall_eq_or_imp] at hvs
    obtain ⟨e, hrest⟩ := ih hvs.2 (by simpa using hn)
    refine ⟨e, ?_⟩
    rw [readUntil, List.flatMap_cons, List.append_assoc, h.round_trip hvs.1]
    simp only [hrest]

/-! ### Little-endian numbers -/

/-- The `n` low digits of a number in base 256, least significant digit first. -/
def leBytes : Nat → Nat → List UInt8
  | 0, _ => []
  | n + 1, x => UInt8.ofNat x :: leBytes n (x / 256)

def leValue : List UInt8 → Nat
  | [] => 0
  | b :: bs => b.toNat + 256 * leValue bs

@[simp] lemma length_leBytes (n : Nat) : ∀ x, (leBytes n x).length = n := by
  induction n with
  | zero => exact fun _ => rfl
  | succ n ih => intro x; simp [leBytes, ih]

lemma leValue_leBytes (n : Nat) : ∀ x, x < 256 ^ n → leValue (leBytes n x) = x := by
  induction n with
  | zero => intro x hx; simp [leBytes, leValue] at hx ⊢; omega
  | succ n ih =>
    intro x hx
    have hrest := Nat.div_lt_of_lt_mul (by rwa [← Nat.pow_succ'])
    simp only [leBytes, leValue, ih _ hrest, UInt8.toNat_ofNat']
    omega

lemma leBytes_leValue (bs : List UInt8) : leBytes bs.length (leValue bs) = bs := by
  induction bs with
  | nil => rfl
  | cons b bs ih =>
    have hb := b.toNat_lt
    have hhead : UInt8.ofNat (b.toNat + 256 * leValue bs) = b := by
      apply UInt8.toNat_inj.mp
      simp only [UInt8.toNat_ofNat']
      omega
    have htail : (b.toNat + 256 * leValue bs) / 256 = leValue bs := by omega
    simp only [List.length_cons, leBytes, leValue, hhead, htail, ih]

lemma leValue_lt (bs : List UInt8) : leValue bs < 256 ^ bs.length := by
  induction bs with
  | nil => simp [leValue]
  | cons b bs ih =>
    have hb := b.toNat_lt
    simp only [leValue, List.length_cons, Nat.pow_succ]
    omega

def readLe (n : Nat) (short : List UInt8 → ε) : Reader UInt8 ε Nat :=
  leValue <$> readTokens n short

lemma reads_le (n : Nat) (short : List UInt8 → ε) :
    Reads (readLe n short) (leBytes n) (· < 256 ^ n) := by
  refine (reads_tokens n short).map (leBytes n) (fun tokens hlength => ?_) fun x hx => ?_
  · rw [← hlength]
    exact ⟨leValue_lt tokens, leBytes_leValue tokens⟩
  · exact ⟨length_leBytes n x, leValue_leBytes n x hx⟩

end Codec
