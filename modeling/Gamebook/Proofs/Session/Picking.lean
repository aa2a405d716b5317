import Gamebook.Proofs.Session.Commit
import Gamebook.Proofs.Text.Numeral

/-! # Which inputs are accepted

An input is accepted if it is the number of a choice in decimal, with blanks around it if need be. A
number is read whatever its size, so one that does not fit in a word is turned down like any other
that no choice has. An input that is accepted is told of as a choice at once (`Play.decided`), and
one that is turned down as an invalid choice (`Play.mistaken`), so it can be seen which it was.
-/

namespace Gamebook

/-- An input picks the offer that stands where its number says. -/
theorem pick?_eq_some_iff {offers : List Offer} {input : Text} {n : Nat} {offer : Offer} :
    pick? offers input = some (n, offer) ↔
      Text.Denotes input.trim n ∧ 1 ≤ n ∧ offers[n - 1]? = some offer := by
  rw [← Text.toInt?_eq_some_iff]
  unfold pick?
  cases read : Text.toInt? input.trim with
  | none => simp
  | some i =>
    simp only [Option.bind_eq_bind, Option.bind_some, Option.some.injEq]
    by_cases small : i < 1
    · rw [if_pos small]
      constructor
      · intro picked
        cases picked
      · rintro ⟨rfl, positive, -⟩
        omega
    · rw [if_neg small]
      cases here : offers[i.toNat - 1]? with
      | none =>
        constructor
        · intro picked
          cases picked
        · rintro ⟨rfl, -, there⟩
          rw [Int.toNat_natCast] at here
          cases here.symm.trans there
      | some other =>
        simp only [Option.bind_some, pure, Option.some.injEq, Prod.mk.injEq]
        constructor
        · rintro ⟨rfl, rfl⟩
          exact ⟨by omega, by omega, here⟩
        · rintro ⟨rfl, -, there⟩
          rw [Int.toNat_natCast] at here ⊢
          exact ⟨rfl, Option.some.inj (here.symm.trans there)⟩

/-- Offers are found by their numbers. -/
theorem mem_numbered_iff {branches : List Branch} {offer : Offer} {n : Int} :
    (offer ∈ numbered branches ∧ offer.choice.index = n) ↔
      1 ≤ n ∧ (numbered branches)[n.toNat - 1]? = some offer := by
  have index {i : Nat} {other : Offer} (here : (numbered branches)[i]? = some other) :
      other.choice.index = (i + 1 : Nat) := by
    rw [numbered, List.getElem?_mapIdx, Option.map_eq_some_iff] at here
    obtain ⟨b, -, rfl⟩ := here
    rfl
  constructor
  · rintro ⟨member, rfl⟩
    obtain ⟨i, here⟩ := List.mem_iff_getElem?.mp member
    rw [index here]
    refine ⟨by omega, ?_⟩
    rwa [Int.toNat_natCast, Nat.add_sub_cancel]
  · rintro ⟨positive, here⟩
    refine ⟨List.mem_iff_getElem?.mpr ⟨_, here⟩, ?_⟩
    rw [index here]
    omega

/-- How an input that is turned down can turn out. It is told of and counted, and that is all, unless
    it was one too many or cannot be answered. -/
inductive View.TurningDown {σ : Type} (h : Host σ) (input : Text) (v : View) :
    Option Failure × View → Prop where
  | again {f : Failure} (code : f.code = .invalidChoice)
      (few : ¬(0 < v.session.maxRetries ∧ v.session.maxRetries ≤ (v.session.retries + 1 : Nat))) :
    TurningDown h input v (some f, v.mistake input)
  | exhausted {f : Failure} (code : f.code = .retriesExhausted)
      (many : 0 < v.session.maxRetries ∧ v.session.maxRetries ≤ (v.session.retries + 1 : Nat)) :
    TurningDown h input v ((v.mistake input).finish f)
  | unshown {cause : Failure} (refused : h.Refuses cause) :
    TurningDown h input v ((v.mistake input).finish (.because .outputNotWritten cause))

namespace Play

variable {σ : Type} {p : Play σ} {h : Host σ} {input : Text}

/-- That an input is accepted for the choice with a number: choosing it is following the branch that
    the choice stands for. -/
def Takes (h : Host σ) (p : Play σ) (input : Text) (n : Int) : Prop :=
  ∃ offer, (offer ∈ p.session.offers ∧ offer.choice.index = n) ∧
    p.choose h input = (p.asked h).take h n.toNat offer

/-- What is told of a choice shows its number. -/
theorem decided_inj {n m : Nat} {offer other : Offer} {events : List Event}
    (first : (p.decided n offer).events <+: events)
    (second : (p.decided m other).events <+: events) : n = m := by
  have short : (p.decided n offer).events.length = (p.decided m other).events.length := by
    simp [decided, happen_eq, note_eq, emit]
  have same := (List.prefix_of_prefix_length_le first second short.le).eq_of_length short
  simp only [decided, happen_eq, note_eq, emit, List.append_assoc, List.append_cancel_left_eq] at same
  obtain ⟨number, -⟩ : n = m ∧ offer.choice.label = other.choice.label ∧
      offer.branch.target.text = other.branch.target.text := by
    simpa using (List.cons.inj (List.cons.inj same).2).1
  exact number

/-- What is told of a choice is not what is told of an invalid one. -/
theorem decided_ne_mistaken {n : Nat} {offer : Offer} {events : List Event}
    (first : (p.decided n offer).events <+: events)
    (second : (p.mistaken input).events <+: events) : False := by
  have short : (p.decided n offer).events.length = (p.mistaken input).events.length := by
    simp [decided, mistaken, happen_eq, note_eq, emit]
  have same := (List.prefix_of_prefix_length_le first second short.le).eq_of_length short
  simp only [decided, mistaken, happen_eq, note_eq, emit, List.append_assoc,
    List.append_cancel_left_eq] at same
  simp at same

/-- An input is accepted exactly if it picks an offer. -/
theorem takes_iff_pick? (waiting : p.session.stage = .awaitingChoice)
    (live : (h.halted p.world).1 = none) {branches : List Branch}
    (offers : p.session.offers = numbered branches) {n : Int} :
    p.Takes h input n ↔ 1 ≤ n ∧ ∃ offer, pick? p.session.offers input = some (n.toNat, offer) := by
  have choosing : p.choose h input = _ := choose_of_live waiting live
  unfold Takes
  simp only [offers, mem_numbered_iff]
  rw [offers] at choosing
  constructor
  · rintro ⟨offer, ⟨positive, here⟩, took⟩
    refine ⟨positive, ?_⟩
    have told : ((p.asked h).decided n.toNat offer).events <+: (p.choose h input).2.events := by
      rw [took]
      exact prefix_take_of_decided h (List.prefix_refl _)
    cases picked : pick? (numbered branches) input with
    | none =>
      rw [picked] at choosing
      rw [choosing] at told
      exact (decided_ne_mistaken told (prefix_reject_of_mistaken h (List.prefix_refl _))).elim
    | some choice =>
      obtain ⟨m, other⟩ := choice
      rw [picked] at choosing
      rw [choosing] at told
      rw [decided_inj told (prefix_take_of_decided h (List.prefix_refl _))]
      exact ⟨other, rfl⟩
  · rintro ⟨positive, offer, picked⟩
    rw [picked] at choosing
    exact ⟨offer, ⟨positive, (pick?_eq_some_iff.mp picked).2.2⟩, choosing⟩

theorem takes_iff_denotes (waiting : p.session.stage = .awaitingChoice)
    (live : (h.halted p.world).1 = none) {branches : List Branch}
    (offers : p.session.offers = numbered branches) {n : Int} :
    p.Takes h input n ↔ Text.Denotes input.trim n ∧ 1 ≤ n ∧ n ≤ p.session.offers.length := by
  rw [takes_iff_pick? waiting live offers]
  simp only [pick?_eq_some_iff, exists_and_left]
  constructor
  · rintro ⟨positive, denotes, -, offer, here⟩
    have inside := (List.getElem?_eq_some_iff.mp here).1
    rw [Int.toNat_of_nonneg (by omega)] at denotes
    exact ⟨denotes, positive, by omega⟩
  · rintro ⟨denotes, positive, inside⟩
    refine ⟨positive, ?_, by omega, ?_⟩
    · rwa [Int.toNat_of_nonneg (by omega)]
    · have bound : n.toNat - 1 < p.session.offers.length := by omega
      exact ⟨_, List.getElem?_eq_getElem bound⟩

/-- An input that picks nothing is turned down, whatever the host does then. -/
theorem reject_turningDown (h : Host σ) (p : Play σ)
    (unpicked : pick? p.session.offers input = none) :
    p.view.TurningDown h input (seen (p.reject h input)) := by
  -- The host is not asked any more whether the session is to go on.
  let steady : Host σ := { h with halted := fun w => (none, w) }
  have choosing : p.view.Choosing steady input p.world (seen (p.reject h input)) :=
    reject_choosing steady unpicked
  generalize seen (p.reject h input) = r at choosing
  cases choosing with
  | halted stopped =>
    obtain ⟨w, stops⟩ := stopped
    cases stops
  | unresolved picked => cases unpicked.symm.trans picked
  | entering picked => cases unpicked.symm.trans picked
  | unshown unpicked refused => exact .unshown refused
  | exhausted unpicked many => exact .exhausted rfl many
  | rejected unpicked few => exact .again rfl few

end Play

/-- An input is accepted for the choice with number `n` exactly if it is a numeral for `n`, with a
    sign or without one and with blanks around it or not, and there is such a choice. Every other
    input is turned down. Reading the numeral as a signed word of 64 bits, and refusing those that
    do not fit, comes to the same. -/
theorem choices_are_decimal_numbers {σ : Type} {p : Play σ} (reachable : p.Reachable)
    (waiting : p.session.stage = .awaitingChoice) {h : Host σ}
    (live : (h.halted p.world).1 = none) (input : Text) :
    let count := p.session.offers.length
    (∀ n, p.Takes h input n ↔
      (∃ before numeral after, Text.Blank before ∧ Text.Blank after ∧
        input = before ++ numeral ++ after ∧ Text.Denotes numeral n) ∧ 1 ≤ n ∧ n ≤ count) ∧
    ((¬∃ n, p.Takes h input n) → p.view.TurningDown h input (Play.seen (p.choose h input))) ∧
    (count < 2 ^ 63 → ∀ n, p.Takes h input n ↔
      Text.parseInt (some 10) 64 input.trim = .ok n ∧ 1 ≤ n ∧ n ≤ count) := by
  intro count
  have settled := reachable.sound.settled
  rw [Session.Settled, show p.view.session.stage = .awaitingChoice from waiting] at settled
  obtain ⟨-, -, ⟨found, -, offers⟩, -⟩ := settled
  have takes (n : Int) : p.Takes h input n ↔ Text.Denotes input.trim n ∧ 1 ≤ n ∧ n ≤ count :=
    Play.takes_iff_denotes waiting live offers
  refine ⟨?_, ?_, ?_⟩
  · intro n
    rw [takes, Text.denotes_trim_iff]
  · intro untaken
    have unpicked : pick? p.session.offers input = none := by
      cases picked : pick? p.session.offers input with
      | none => rfl
      | some choice =>
        obtain ⟨n, offer⟩ := choice
        have positive := (pick?_eq_some_iff.mp picked).2.1
        exact absurd ⟨n, (Play.takes_iff_pick? waiting live offers).mpr
          ⟨by omega, offer, picked⟩⟩ untaken
    rw [Play.choose_of_live waiting live, unpicked]
    exact Play.reject_turningDown h (p.asked h) unpicked
  · intro small n
    rw [takes, Text.parseInt_eq_ok_iff (by decide), and_assoc]
    refine and_congr_right fun _ => ⟨fun inside => ⟨?_, inside⟩, And.right⟩
    rw [Text.fitsWord_iff]
    omega

/-- A sign, zeros and blanks change nothing, and a number that is one more than a word can count is
    not taken for one. -/
theorem choices_are_decimal_numbers_vault :
    let p := (Play.make Story.vault.host ⟨{ id := "v" }, { directory := "/" }, (), []⟩
      (.start ⟨"a", "m", "s"⟩)).2
    let tooLong : Text := "18446744073709551617"
    p.Reachable ∧ p.session.stage = .awaitingChoice ∧
      (Story.vault.host.halted p.world).1 = none ∧ p.session.offers.length = 1 ∧
      p.Takes Story.vault.host "\u2003+001\t" 1 ∧
      p.view.TurningDown Story.vault.host tooLong
        (Play.seen (p.choose Story.vault.host tooLong)) := by
  intro p tooLong
  have reachable : p.Reachable :=
    (Play.Reachable.fresh "v" 0 {} () (Loader.readFrom_empty _ "/")).make _ _
  obtain ⟨waiting, one⟩ : p.session.stage = .awaitingChoice ∧ p.session.offers.length = 1 := by
    decide +kernel
  have live : (Story.vault.host.halted p.world).1 = none := rfl
  obtain ⟨taken, -, -⟩ := choices_are_decimal_numbers reachable waiting live "\u2003+001\t"
  obtain ⟨-, refused, asWord⟩ := choices_are_decimal_numbers reachable waiting live tooLong
  refine ⟨reachable, waiting, live, one, ?_, ?_⟩
  · rw [taken, one]
    refine ⟨⟨"\u2003", "+001", "\t", ⟨[.char '\u2003'], by decide, by decide⟩,
      ⟨[.char '\t'], by decide, by decide⟩, by decide, ?_⟩, by decide⟩
    have written : Text.Denotes (0x2B :: Text.ofDigits [0, 0, 1]) (Text.digitsValue [0, 0, 1]) :=
      .positive (by decide)
    exact written
  · apply refused
    rintro ⟨n, takes⟩
    have read := ((asWord (by rw [one]; decide) n).mp takes).1
    have tooLarge : Text.parseInt (some 10) 64 tooLong.trim = .error .outOfRange := by
      decide +kernel
    cases tooLarge.symm.trans read

end Gamebook
