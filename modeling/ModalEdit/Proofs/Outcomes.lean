import ModalEdit.Proofs.MacroCommands

namespace ModalEdit.Macro

def Outcome.Asks (k : Nat) (o : Outcome) : Prop := ∀ n r, o = .done n r → n = k ∧ r.isSome = true

namespace Control

variable (d : Control) (i : Interaction) (k times : Nat)

lemma resolve_asks (name : Text) : (d.resolve i name k times).2.2.Asks k := by
  intro n r h
  simp only [resolve] at h
  split_ifs at h
  · cases h
    exact ⟨rfl, rfl⟩
  · cases h
    exact ⟨rfl, rfl⟩

lemma choose_asks (choices : List Text) : (d.choose i choices k times).2.2.Asks k := by
  simp only [choose]
  split
  · exact nofun
  · split
    · exact resolve_asks d _ k times _
    · exact nofun

lemma search_asks (start : Text) (complete : Bool) :
    (d.search i start k times complete).2.2.Asks k := by
  simp only [search]
  split
  · cases complete <;> exact nofun
  · exact resolve_asks d _ k times _
  · split
    · exact resolve_asks d _ k times _
    · split
      · exact choose_asks d _ k times _
      · exact nofun

lemma readPlayback_asks (rest : Text) (complete : Bool) :
    (d.readPlayback i rest k times complete).2.2.Asks k := by
  simp only [readPlayback]
  split
  · split
    · exact choose_asks d i k times _
    · exact nofun
  · split
    · split
      · exact resolve_asks d i k times _
      · exact choose_asks d i k times _
    · split
      · exact resolve_asks d i k times _
      · split
        · split <;> exact nofun
        · exact search_asks d i k times rest complete

lemma startRecording_consumed {name : Text} {n : Nat} {r : Option Request}
    (h : (d.startRecording i name k).2.2 = .done n r) : n = k := by
  simp only [startRecording] at h
  split at h
  · cases h
    rfl
  · cases h

lemma readRecord_consumed {name : Text} {complete : Bool} {n : Nat} {r : Option Request}
    (h : (d.readRecord i name k complete).2.2 = .done n r) : n = 1 ∨ n = k := by
  simp only [readRecord] at h
  split at h
  · cases h
    exact .inl rfl
  · cases h
    exact .inl rfl
  · split at h
    · cases h
    · cases h
      exact .inr rfl
  · split at h
    · exact .inr (startRecording_consumed d i k h)
    · split at h
      · cases h
      · split at h
        · exact .inr (startRecording_consumed d _ k h)
        · cases h

lemma read_consumed {command : Text} {complete : Bool} {n : Nat} {r : Option Request}
    (h : (d.read i command complete times).2.2 = .done n r) :
    n ≤ command.length ∧ (r = none → command.head? = some 'q') := by
  simp only [read] at h
  split at h
  · cases h
  · split at h
    · cases h
    · refine ⟨?_, fun _ => rfl⟩
      rcases readRecord_consumed d i _ h with rfl | rfl
      · exact Nat.succ_le_of_lt (Nat.zero_lt_succ _)
      · exact Nat.le_refl _
    · obtain ⟨rfl, hr⟩ := readPlayback_asks d i _ times _ complete n r h
      exact ⟨Nat.le_refl _, fun hn => absurd hr (by simp [hn])⟩
    · cases h

/-- Only a `q` that is carried out changes anything. What a reference asks for, the registry has. -/
theorem read_all_or_nothing (command : Text) (complete : Bool) :
    let (d', _, o) := d.read i command complete times
    ((∀ n, o ≠ .done n none) → d' = d) ∧
      (∀ n r, o = .done n (some r) → d.registry.Answers times r) ∧
      (∀ n, o = .done n none → command.head? = some 'q') ∧
      ∀ n r, o = .done n r → n ≤ command.length := by
  have hr := read_reads d i command complete times
  have hc : ∀ n r, (d.read i command complete times).2.2 = .done n r →
      n ≤ command.length ∧ (r = none → command.head? = some 'q') :=
    fun n r => read_consumed d i times
  generalize d.read i command complete times = step at hr hc
  refine ⟨?_, ?_, fun n ho => (hc n none ho).2 rfl, fun n r ho => (hc n r ho).1⟩
  · intro hn
    cases hr with
    | kept => rfl
    | started i name k => exact absurd rfl (hn k)
    | stored => exact absurd rfl (hn 1)
    | aborted => exact absurd rfl (hn 1)
  · intro n r ho
    cases hr with
    | kept i o h => exact h n r ho
    | started => cases ho
    | stored => cases ho
    | aborted => cases ho

end Control

end ModalEdit.Macro
