import LogSieve.Proofs.Speaking
import LogSieve.Session

/-!
# Listening changes nothing

What operations come to does not depend on who listens: no notice is ever given that cannot be
written, so there is nothing that those who listen could come upon and the others not. Who listens
more closely is told the same and more.

* `messages_sublist`: greater thresholds only add messages;
* `isShowable_perform`: each notice of an operation can be written;
* `performUnder_eq`: one operation, with whoever listens, is the operation by itself;
* `run_listening`: a sequence of operations.
-/

namespace LogSieve

/-! ## 1. Messages -/

namespace Diagnostics

variable {d e : Diagnostics} {ns : List Notice}

/-- A message is written on no channel whose threshold is at the wall. -/
theorem wall_lt_of_mem_messages {m : Message} (h : m ∈ (d.messages ns).1) :
    Notice.wall < d.threshold m.channel := by
  induction ns with
  | nil => cases h
  | cons n rest ih =>
    rw [messages] at h
    split at h
    · rename_i hshows
      split at h
      · cases h
      · rcases List.mem_cons.mp h with rfl | h
        · rw [shows, Bool.and_eq_true, decide_eq_true_eq] at hshows
          exact hshows.1
        · exact ih h
    · exact ih h

/-- Where all notices can be written, greater thresholds only add messages. -/
theorem messages_sublist (hle : ∀ channel, d.threshold channel ≤ e.threshold channel)
    (h : ∀ n ∈ ns, ∃ line, n.line = .ok line) :
    (d.messages ns).1.Sublist (e.messages ns).1 := by
  induction ns with
  | nil => exact .slnil
  | cons n rest ih =>
    obtain ⟨⟨line, hline⟩, hrest⟩ := List.forall_mem_cons.mp h
    rw [messages, messages, hline]
    by_cases hd : d.shows n = true
    · rw [if_pos hd, if_pos (shows_mono (hle n.channel) hd)]
      exact (ih hrest).cons_cons _
    · rw [if_neg hd]
      split
      · exact (ih hrest).cons _
      · exact ih hrest

end Diagnostics

/-! ## 2. Operations -/

namespace Session

open Reported

theorem isShowable_withBuilder (s : Session) (name : Text)
    {act : Builder → Reported (Except OperationFault Answer × Builder)}
    (h : ∀ b, (act b).IsShowable) : (s.withBuilder name act).IsShowable := by
  unfold withBuilder
  split
  · exact isShowable_pure _
  · exact isShowable_bind (h _) fun _ => isShowable_pure _

/-- Whatever an operation says can be written. -/
theorem isShowable_perform [CharacterNames] (w : World) (s : Session) (op : Operation) :
    (s.perform w op).IsShowable := by
  cases op with
  | readSpec strategy t =>
    exact isShowable_bind (Spec.parse_written strategy t) fun _ => isShowable_pure _
  | openBuilder name drain =>
    rw [perform]
    split <;> exact isShowable_pure _
  | addDirective name module level =>
    refine s.isShowable_withBuilder name fun b => ?_
    split <;> exact isShowable_pure _
  | chooseStrategy name strategy =>
    exact s.isShowable_withBuilder name fun b =>
      isShowable_bind (b.isShowable_choose strategy) fun _ => isShowable_pure _
  | addSpec name t =>
    refine s.isShowable_withBuilder name fun b => ?_
    refine isShowable_bind (b.isShowable_parse t) fun outcome => ?_
    split <;> exact isShowable_pure _
  | takeSettings name variableName start =>
    refine s.isShowable_withBuilder name fun b => ?_
    refine isShowable_bind (b.isShowable_takeSettings w variableName start) fun outcome => ?_
    split <;> exact isShowable_pure _
  | build name logger =>
    rw [perform]
    split <;> exact isShowable_pure _
  | buildNew drain variableName logger =>
    rw [perform]
    split
    · exact isShowable_pure _
    · refine isShowable_bind (Builder.isShowable_buildFromSettings {} w variableName)
        fun outcome => ?_
      split <;> exact isShowable_pure _
  | enables logger level module =>
    rw [perform]
    split <;> exact isShowable_pure _
  | log logger thread r =>
    rw [perform]
    split <;> exact isShowable_pure _
  | findSpec given variableName start =>
    exact isShowable_bind (w.isShowable_findSpec _ _ _) fun _ => isShowable_pure _
  | findStrategy given variableName start =>
    exact isShowable_bind (w.isShowable_findStrategy _ _ _) fun _ => isShowable_pure _
  | loadEntries path =>
    exact isShowable_bind (w.isShowable_loadEntries path) fun _ => isShowable_pure _

/-- With whoever listens, an operation comes to what it comes to by itself. -/
theorem performUnder_eq [CharacterNames] (d : Diagnostics) (w : World) (s : Session)
    (op : Operation) :
    s.performUnder d w op =
      ((d.messages (s.perform w op).notices).1, (s.perform w op).value) := by
  have hcomplete := Diagnostics.messages_complete (d := d) (s.isShowable_perform w op)
  unfold performUnder
  dsimp only
  generalize d.messages (s.perform w op).notices = listing at hcomplete ⊢
  obtain ⟨messages, fault⟩ := listing
  cases hcomplete
  rfl

/-! ## 3. Sequences -/

/-- **Listening changes nothing.** Whatever the world, the session and the operations are, and
whatever two listeners there are, the second of whom has no threshold below the first one's: every
operation returns the same or fails in the same way for both, and all builders, loggers and drains
end up the same; what the first one is told, the second one is told too, in the same order and the
same words. On a channel whose threshold is at the wall or below nothing is said. -/
theorem run_listening [CharacterNames] (w : World) (s : Session) (ops : List Operation)
    {d e : Diagnostics} (hle : ∀ channel, d.threshold channel ≤ e.threshold channel) :
    (s.run d w ops).answers = (s.run e w ops).answers ∧
      (s.run d w ops).session = (s.run e w ops).session ∧
      (s.run d w ops).messages.Sublist (s.run e w ops).messages ∧
      ∀ channel, d.threshold channel ≤ Notice.wall →
        ∀ m ∈ (s.run d w ops).messages, m.channel ≠ channel := by
  induction ops generalizing s with
  | nil => exact ⟨rfl, rfl, .slnil, fun _ _ _ hm => nomatch hm⟩
  | cons op rest ih =>
    obtain ⟨hanswers, hsession, hmessages, hwall⟩ := ih (s.perform w op).value.2
    have hsteps := Diagnostics.messages_sublist hle (s.isShowable_perform w op)
    unfold run
    rw [performUnder_eq, performUnder_eq]
    refine ⟨congrArg (_ :: ·) hanswers, hsession, hsteps.append hmessages, ?_⟩
    intro channel hchannel m hm heq
    rcases List.mem_append.mp hm with hm | hm
    · have hbeyond := Diagnostics.wall_lt_of_mem_messages hm
      rw [heq] at hbeyond
      exact absurd hchannel (Int.not_le.mpr hbeyond)
    · exact hwall channel hchannel m hm heq

attribute [local instance] CharacterNames.common

/-- **One listener on two channels, one on all.** A strategy that there is none of, and a directive
with two signs: the first listener has the channel of filters at the wall and hears of the directive
only. -/
theorem run_listening_misspelt :
    let ops : List Operation :=
      [.openBuilder "b" none, .chooseStrategy "b" "glob", .addSpec "b" "info,a=b=c",
        .build "b" "l", .log "l" 0 { level := .info, module := "a", msg := .text "ready" }]
    let d : Diagnostics := { overrides := [(Spec.filterChannel, -4)] }
    let e : Diagnostics := { verbosity := 3 }
    let said := fun d => (({} : Session).run d {} ops).messages.map Message.line
    (said d).Sublist (said e) ∧
      said d = ["warning: invalid logging spec 'a=b=c', ignoring it".toList] ∧
      said e = ["warning: unknown filter strategy 'glob', using 'regex'".toList,
        "  directive Directive(module=None, level=<FilterLevel.INFO: 3>)".toList,
        "warning: invalid logging spec 'a=b=c', ignoring it".toList] := by
  intro ops d e said
  have hle : ∀ channel, d.threshold channel ≤ e.threshold channel := by
    intro channel
    show (([(Spec.filterChannel, (-4 : Int))].lookup channel).getD 0) ≤ 3
    rw [List.lookup_cons, List.lookup_nil]
    split <;> decide
  obtain ⟨_, _, hmessages, _⟩ := Session.run_listening {} {} ops hle
  exact ⟨hmessages.map _, by decide +kernel, by decide +kernel⟩

end Session

end LogSieve
