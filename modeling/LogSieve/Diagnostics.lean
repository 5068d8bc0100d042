import LogSieve.Notice

/-!
# Diagnostics

Which notices are shown. A notice is shown when its level is at most the threshold of its channel;
the threshold is the channel's own, when it has one, and the general verbosity otherwise. At the
wall and below it nothing is shown at all.

* `shows_mono`: with greater thresholds at least as much is shown;
* `written_eq_none`: the listing is complete when each notice can be written;
* `lookup_override`: a later setting of a channel replaces an earlier one.
-/

namespace LogSieve

open Format (TemplateFault)

/-! ## 1. Thresholds -/

/-- The settings that decide which notices are shown. -/
structure Diagnostics where
  verbosity : Int := 0
  /-- The channels with a threshold of their own, in the order in which they were first set. -/
  overrides : List (Text × Int) := []
  deriving DecidableEq, Repr, Inhabited

namespace Diagnostics

def threshold (d : Diagnostics) (channel : Text) : Int :=
  (d.overrides.lookup channel).getD d.verbosity

def shows (d : Diagnostics) (n : Notice) : Bool :=
  Notice.wall < d.threshold n.channel && n.level ≤ d.threshold n.channel

/-- With greater thresholds, at least as much is shown. -/
theorem shows_mono {d e : Diagnostics} {n : Notice}
    (h : d.threshold n.channel ≤ e.threshold n.channel) (hd : d.shows n = true) :
    e.shows n = true := by
  simp only [shows, Bool.and_eq_true, decide_eq_true_eq] at *
  omega

/-- The lines of the notices that are shown. A notice that cannot be written ends the listing. -/
def written (d : Diagnostics) : List Notice → List Text × Option TemplateFault
  | [] => ([], none)
  | n :: rest =>
    if d.shows n then
      match n.line with
      | .ok line =>
        let (lines, fault) := written d rest
        (line :: lines, fault)
      | .error fault => ([], some fault)
    else written d rest

/-- Notices that can all be written leave the listing without a fault. -/
theorem written_eq_none (d : Diagnostics) {ns : List Notice}
    (h : ∀ n ∈ ns, ∃ line, n.line = .ok line) : (d.written ns).2 = none := by
  induction ns with
  | nil => rfl
  | cons n rest ih =>
    obtain ⟨⟨line, hl⟩, hrest⟩ := List.forall_mem_cons.mp h
    rw [written]
    split
    · rw [hl]
      exact ih hrest
    · exact ih hrest

/-- The results of commands are shown unless only errors are. -/
def showsResults (d : Diagnostics) : Bool := Notice.warningLevel ≤ d.verbosity

/-! ## 2. Channel settings -/

/-- A threshold for one channel. -/
structure ChannelSetting where
  name : Text
  level : Int
  deriving DecidableEq, Repr

/-- A setting is the name of a channel and, after a colon, a level, which is 0 when it is blank. -/
def ChannelSetting.parse (t : Text) : Except IntegerFault ChannelSetting :=
  let (name, level) := t.cutAt ':'
  match level with
  | none => .ok ⟨name.trim, 0⟩
  | some level =>
    if level.isAllBlank then .ok ⟨name.trim, 0⟩
    else do return ⟨name.trim, ← readInt level⟩

/-- The settings with one more; the channel keeps its place when it has one. -/
def override (s : ChannelSetting) : List (Text × Int) → List (Text × Int)
  | [] => [(s.name, s.level)]
  | (name, level) :: rest =>
    if name = s.name then (name, s.level) :: rest else (name, level) :: override s rest

theorem lookup_override (s : ChannelSetting) (settings : List (Text × Int)) (channel : Text) :
    (override s settings).lookup channel =
      if channel = s.name then some s.level else settings.lookup channel := by
  have beq_false {a b : Text} (h : a ≠ b) : (a == b) = false := by simpa using h
  induction settings with
  | nil => by_cases h : channel = s.name <;> simp [override, List.lookup_cons, h, beq_false]
  | cons e rest ih =>
    obtain ⟨name, level⟩ := e
    by_cases hn : name = s.name
    · subst hn
      by_cases h : channel = s.name <;> simp [override, List.lookup_cons, h, beq_false]
    · by_cases h : channel = name
      · subst h
        simp [override, hn]
      · simp [override, List.lookup_cons, hn, beq_false h, ih]

/-- The thresholds that channel settings add to others, one setting after the other. -/
def overrideAll (settings : List (Text × Int)) : List Text → Except IntegerFault (List (Text × Int))
  | [] => .ok settings
  | t :: rest => do overrideAll (override (← ChannelSetting.parse t) settings) rest

/-- Diagnostics with a verbosity and the thresholds that channel settings give. -/
def ofChannels (verbosity : Int) (channels : List Text) : Except IntegerFault Diagnostics := do
  return { verbosity, overrides := ← overrideAll [] channels }

/-! ## 3. The channels in use -/

/-- The channels with what is said on them. -/
def channels : List (Text × Text) :=
  [("config", "Spec source resolution (argument, env, file)"),
   ("error", "Error messages"),
   ("filter", "Content filter construction"),
   ("general", "General output"),
   ("parse", "Specification string parsing")]

/-- A listing of the channels, a line each under a heading. -/
def channelListing : Text :=
  let width := (channels.map (·.1.length)).foldl max 0
  Text.joinWith "\n" ("Available channels:" ::
    channels.map fun (name, about) => "  " ++ Text.padRight ' ' width name ++ "  " ++ about)

end Diagnostics

end LogSieve
