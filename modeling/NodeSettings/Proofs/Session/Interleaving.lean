import NodeSettings.Proofs.Session.Reloads

/-!
# Reloads between the steps of a start

A session has two parts that never meet: the settings of the running node, with the files and
variables that they are reloaded from, and the rest of its configuration, which overriding and
normalizing work on. So steps of the two kinds may stand in any order. Each comes to the same as if
all steps of a start were run before all reloads, and the session they lead to is the same.
-/

namespace NodeSettings

/-! ### Interleavings -/

/-- A list made of two others, each in its own order. -/
inductive Interleaved {α : Type} : List α → List α → List α → Prop where
  | nil : Interleaved [] [] []
  | first {a : α} {as bs all : List α} : Interleaved as bs all → Interleaved (a :: as) bs (a :: all)
  | second {b : α} {as bs all : List α} :
    Interleaved as bs all → Interleaved as (b :: bs) (b :: all)

namespace Interleaved

theorem of_second {α : Type} (bs : List α) : Interleaved [] bs bs := by
  induction bs with
  | nil => exact .nil
  | cons b rest ih => exact .second ih

theorem eq_of_nil {α : Type} {bs all : List α} (h : Interleaved [] bs all) : all = bs := by
  induction bs generalizing all with
  | nil =>
    cases h
    rfl
  | cons b rest ih =>
    cases h with
    | second h => rw [ih h]

theorem append {α : Type} (as bs : List α) : Interleaved as bs (as ++ bs) := by
  induction as with
  | nil => exact of_second bs
  | cons a rest ih => exact .first ih

theorem flatMap_eq {α β : Type} {f : α → List β} {as bs all : List α}
    (h : Interleaved as bs all) (hb : ∀ b ∈ bs, f b = []) : all.flatMap f = as.flatMap f := by
  induction h with
  | nil => rfl
  | first _ ih => rw [List.flatMap_cons, List.flatMap_cons, ih hb]
  | @second b as bs all _ ih =>
    rw [List.flatMap_cons, hb b List.mem_cons_self, List.nil_append]
    exact ih fun b' hm => hb b' (List.mem_cons_of_mem b hm)

end Interleaved

namespace Session

/-! ### Two kinds of steps -/

/-- A step that works on the configuration as a start does. -/
def Step.OfStart : Step → Prop
  | .override _ | .normalize _ => True
  | _ => False

/-- A step that reloads settings, or changes what they are reloaded from. -/
def Step.OfReload : Step → Prop
  | .applyHot _ | .reload _ | .reloadLocated | .write .. | .remove _ | .setVariable ..
  | .locate .. => True
  | _ => False

/-- The steps of a run, each with its outcome. -/
def answers (session : Session) (steps : List Step) : List (Step × Outcome Failure Reply) :=
  steps.zip ((session.run steps).map Prod.fst)

theorem answers_cons (session : Session) (s : Step) (rest : List Step) :
    session.answers (s :: rest) = (s, (session.step s).2) :: (session.step s).1.answers rest := rfl

theorem reached_cons (session : Session) (s : Step) (rest : List Step) :
    session.reached (s :: rest) = (session.step s).1.reached rest := rfl

/-- The hosts that a run looks up, in order. -/
def asked (session : Session) (steps : List Step) : List Text :=
  (session.answers steps).flatMap fun answer => answer.2.hosts

/-! ### Two parts of a session -/

/-- The session with the settings and the surroundings of another. -/
def joined (session live : Session) : Session :=
  { live with config := { session.config with hot := live.config.hot } }

theorem joined_self (session : Session) : session.joined session = session := rfl

theorem override_joined (c : NodeConfig) (hot : HotSettings) (arguments : List Text) :
    NodeSettings.override arguments { c with hot }
      = ({ (NodeSettings.override arguments c).1 with hot },
          (NodeSettings.override arguments c).2) := by
  unfold NodeSettings.override
  split <;> rfl

theorem normalize_joined (c : NodeConfig) (hot : HotSettings) (directory : Address.Directory) :
    NodeSettings.normalize directory { c with hot }
      = ({ (NodeSettings.normalize directory c).1 with hot },
          (NodeSettings.normalize directory c).2) := by
  have hfound : Normalization.literals directory { c with hot }
      = Normalization.literals directory c := rfl
  simp only [NodeSettings.normalize, Normalization.run, hfound]
  cases (Normalization.literals directory c).result with
  | error e => rfl
  | ok found => rfl

/-- A step of a start neither reads nor changes what is reloaded. -/
theorem step_joined_of_start (session live : Session) {s : Step} (hs : s.OfStart) :
    (session.joined live).step s = ((session.step s).1.joined live, (session.step s).2) := by
  cases s with
  | override arguments =>
    have ho := override_joined session.config live.config.hot arguments
    simp only [step, joined, ho]
    rfl
  | normalize directory =>
    have hn := normalize_joined session.config live.config.hot directory
    simp only [step, joined, hn]
    rfl
  | _ => exact hs.elim

theorem applyHot_joined (c d : NodeConfig) (bindings : Bindings) :
    NodeSettings.applyHot bindings { c with hot := d.hot }
      = ({ c with hot := (NodeSettings.applyHot bindings d).1.hot },
          (NodeSettings.applyHot bindings d).2) := by
  unfold NodeSettings.applyHot
  split <;> rfl

theorem reload_joined (read : FileReader) (path : Option Text) (c d : NodeConfig) :
    NodeSettings.reload read path { c with hot := d.hot }
      = ({ c with hot := (NodeSettings.reload read path d).1.hot },
          (NodeSettings.reload read path d).2) := by
  cases path with
  | none => rfl
  | some path =>
    cases hp : readProperties read path with
    | error e => rw [reload_of_unread hp, reload_of_unread hp]
    | ok bindings => rw [reload_of_read hp, reload_of_read hp, applyHot_joined]

theorem reloadFrom_joined (session live : Session) (path : Option Text) :
    (session.joined live).reloadFrom path
      = (session.joined (live.reloadFrom path).1, (live.reloadFrom path).2) := by
  have hr := reload_joined live.files.read path session.config live.config
  simp only [reloadFrom, joined, hr]
  rfl

/-- A step of a reload neither reads nor changes the rest of the configuration. -/
theorem step_joined_of_reload (session live : Session) {s : Step} (hs : s.OfReload) :
    (session.joined live).step s = (session.joined (live.step s).1, (live.step s).2) := by
  cases s with
  | applyHot bindings =>
    have ha := applyHot_joined session.config live.config bindings
    simp only [step, joined, ha]
    rfl
  | reload path => exact reloadFrom_joined session live path
  | reloadLocated => exact reloadFrom_joined session live (live.location.map Path.text)
  | remove path =>
    simp only [step, joined]
    cases live.files.remove path <;> rfl
  | write | setVariable | locate => rfl
  | _ => exact hs.elim

/-! ### Runs -/

theorem run_joined {startups reloads steps : List Step}
    (h : Interleaved startups reloads steps) (hs : ∀ s ∈ startups, s.OfStart)
    (hr : ∀ s ∈ reloads, s.OfReload) (session live : Session) :
    (session.joined live).reached steps
        = (session.reached startups).joined (live.reached reloads) ∧
      Interleaved (session.answers startups) (live.answers reloads)
        ((session.joined live).answers steps) := by
  -- along the interleaving: each step moves on the part of the session that it works on
  induction h generalizing session live with
  | nil => exact ⟨rfl, .nil⟩
  | @first s startups reloads steps _ ih =>
    have hstep := step_joined_of_start session live (hs s List.mem_cons_self)
    obtain ⟨hreached, hanswers⟩ :=
      ih (fun s' hm => hs s' (List.mem_cons_of_mem s hm)) hr (session.step s).1 live
    rw [reached_cons, reached_cons, answers_cons, answers_cons, hstep]
    exact ⟨hreached, .first hanswers⟩
  | @second s startups reloads steps _ ih =>
    have hstep := step_joined_of_reload session live (hr s List.mem_cons_self)
    obtain ⟨hreached, hanswers⟩ :=
      ih hs (fun s' hm => hr s' (List.mem_cons_of_mem s hm)) session (live.step s).1
    rw [reached_cons, reached_cons, answers_cons, answers_cons, hstep]
    exact ⟨hreached, .second hanswers⟩

theorem answers_append (session : Session) (first second : List Step) :
    session.answers (first ++ second)
      = session.answers first ++ (session.reached first).answers second := by
  induction first generalizing session with
  | nil => rfl
  | cons s rest ih =>
    rw [List.cons_append, answers_cons, answers_cons, reached_cons, ih, List.cons_append]

theorem map_fst_answers (session : Session) (steps : List Step) :
    (session.answers steps).map Prod.fst = steps := by
  induction steps generalizing session with
  | nil => rfl
  | cons s rest ih => rw [answers_cons, List.map_cons, ih]

/-- Reloads answer the same after the steps of a start as before them. -/
theorem answers_reached {startups reloads : List Step} (hs : ∀ s ∈ startups, s.OfStart)
    (hr : ∀ s ∈ reloads, s.OfReload) (session : Session) :
    (session.reached startups).answers reloads = session.answers reloads := by
  have hstart := (run_joined (.append startups []) hs (by simp) session session).1
  have hreload := (run_joined (.of_second reloads) (by simp) hr (session.reached startups)
    session).2.eq_of_nil
  rw [joined_self, List.append_nil] at hstart
  have hsame : session.reached startups = (session.reached startups).joined session := hstart
  rw [← hsame] at hreload
  exact hreload

/-! ### Lookups -/

theorem hosts_applyHot (bindings : Bindings) (c : NodeConfig) :
    (NodeSettings.applyHot bindings c).2.hosts = [] := by
  unfold NodeSettings.applyHot
  split <;> rfl

theorem hosts_reload (read : FileReader) (path : Option Text) (c : NodeConfig) :
    (NodeSettings.reload read path c).2.hosts = [] := by
  cases path with
  | none => rfl
  | some path =>
    cases hp : readProperties read path with
    | error e => rw [reload_of_unread hp]
    | ok bindings =>
      rw [reload_of_read hp]
      exact hosts_applyHot bindings c

theorem hosts_step {session : Session} {s : Step} (hs : s.OfReload) :
    (session.step s).2.hosts = [] := by
  cases s with
  | applyHot bindings => exact hosts_applyHot bindings session.config
  | reload path => exact hosts_reload _ path session.config
  | reloadLocated => exact hosts_reload _ _ session.config
  | remove path =>
    simp only [step]
    split <;> rfl
  | write | setVariable | locate => rfl
  | _ => exact hs.elim

theorem hosts_answers {reloads : List Step} (hr : ∀ s ∈ reloads, s.OfReload) (session : Session) :
    ∀ answer ∈ session.answers reloads, answer.2.hosts = [] := by
  induction reloads generalizing session with
  | nil => simp [answers]
  | cons s rest ih =>
    intro answer ha
    rw [answers_cons] at ha
    rcases List.mem_cons.mp ha with rfl | ha
    · exact hosts_step (hr s List.mem_cons_self)
    · exact ih (fun s' hm => hr s' (List.mem_cons_of_mem s hm)) _ answer ha

/-! ### Any order -/

/-- Steps that come to the same as steps of a start before reloads: they lead to the same session,
each has the outcome that it has there, and the same hosts are looked up in the same order. -/
structure AsIfApart (session : Session) (startups reloads steps : List Step) : Prop where
  reached : session.reached steps = session.reached (startups ++ reloads)
  answers : ∃ first second, session.answers (startups ++ reloads) = first ++ second ∧
    first.map Prod.fst = startups ∧ second.map Prod.fst = reloads ∧
    Interleaved first second (session.answers steps)
  asked : session.asked steps = session.asked (startups ++ reloads)

theorem asIfApart_of_interleaved {session : Session} {startups reloads steps : List Step}
    (hs : ∀ s ∈ startups, s.OfStart) (hr : ∀ s ∈ reloads, s.OfReload)
    (h : Interleaved startups reloads steps) : session.AsIfApart startups reloads steps := by
  obtain ⟨hreached, hanswers⟩ := run_joined h hs hr session session
  obtain ⟨hreached', hanswers'⟩ := run_joined (.append startups reloads) hs hr session session
  rw [joined_self] at hreached hanswers hreached' hanswers'
  have hnone := hosts_answers hr session
  refine ⟨hreached.trans hreached'.symm, ⟨session.answers startups, session.answers reloads, ?_,
    map_fst_answers session startups, map_fst_answers session reloads, hanswers⟩, ?_⟩
  · rw [answers_append, answers_reached hs hr]
  · exact (hanswers.flatMap_eq hnone).trans (hanswers'.flatMap_eq hnone).symm

theorem asIfApart_of_interleaved_mixed :
    let session : Session := { config := { localIp := "node", seeds := ["seed:1:2"] } }
    let directory : Address.Directory :=
      .ofTable [("node", .addresses ["10.0.0.1"]), ("other", .addresses ["10.0.0.2"])]
    let startups : List Step :=
      [.normalize directory, .override ["--seed_nodes=other:3:4"], .override ["stray"],
        .normalize directory]
    let reloads : List Step :=
      [.write "p" (.file (Utf8.ofString "MAX_REMOVED_LOG_SIZE=7\n")), .reload (some "p"),
        .applyHot [("CONNECTION_TIME_OUT_MS", "-1")]]
    let steps : List Step :=
      [.normalize directory, .write "p" (.file (Utf8.ofString "MAX_REMOVED_LOG_SIZE=7\n")),
        .override ["--seed_nodes=other:3:4"], .reload (some "p"), .override ["stray"],
        .applyHot [("CONNECTION_TIME_OUT_MS", "-1")], .normalize directory]
    ((∀ s ∈ startups, s.OfStart) ∧ (∀ s ∈ reloads, s.OfReload) ∧
      Interleaved startups reloads steps) ∧ session.AsIfApart startups reloads steps ∧
      session.asked steps = (["node", "seed", "node", "other"] : List Text) ∧
      (session.reached steps).config
        = { localIp := "10.0.0.1", seeds := ["10.0.0.2:3:4"],
            hot := { maxRemovedLogSize := 7 } } := by
  intro session directory startups reloads steps
  have hs : ∀ s ∈ startups, s.OfStart := by simp [startups, Step.OfStart]
  have hr : ∀ s ∈ reloads, s.OfReload := by simp [reloads, Step.OfReload]
  have h : Interleaved startups reloads steps :=
    .first (.second (.first (.second (.first (.second (.first .nil))))))
  exact ⟨⟨hs, hr, h⟩, asIfApart_of_interleaved hs hr h, by decide +kernel, by decide +kernel⟩

end Session

end NodeSettings
