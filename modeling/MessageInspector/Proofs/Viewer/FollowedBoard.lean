import MessageInspector.Proofs.Present.Fields
import MessageInspector.Proofs.Viewer.DialogHistory
/-!
# Interfaces that follow a viewer

An interface has a board of slots. It cannot look at what a viewer forgets: it only blanks the slots
that the viewer names when a show begins, and writes the fields of a model that has just been shown.
As long as no show request is answered twice, this is enough to keep the board in step with the viewer.
-/
namespace MessageInspector

def Board : Type := String → Option Present.Field

namespace Board

def empty : Board := fun _ => none

def blank (board : Board) (slots : List String) : Board :=
  fun slot => if slot ∈ slots then none else board slot

def write (board : Board) (field : Present.Field) : Board :=
  fun slot => if slot = field.slot then some field else board slot

def writeAll (board : Board) (fields : List Present.Field) : Board := fields.foldl write board

/-- What the interface makes of a reply, with the viewer as the reply leaves it. -/
def follow (board : Board) (v : Viewer) : Dialog.Reply → Board
  | .begun request => board.blank request.clearedSlots
  | .info (.shown _) => board.writeAll ((v.model.map (·.fields)).getD [])
  | .info (.failed _) => board
  | .info .stale => board
  | .preview _ => board
  | .hidden => board
  | .noSuchRequest => board

theorem writeAll_of_notMem (board : Board) {fields : List Present.Field} {slot : String}
    (h : slot ∉ fields.map (·.slot)) : board.writeAll fields slot = board slot := by
  induction fields generalizing board with
  | nil => rfl
  | cons field rest ih =>
    rw [List.map_cons, List.mem_cons, not_or] at h
    calc (board.write field).writeAll rest slot
        = board.write field slot := ih (board.write field) h.2
      _ = board slot := if_neg h.1

theorem writeAll_of_mem (board : Board) {fields : List Present.Field} {field : Present.Field}
    (distinct : (fields.map (·.slot)).Nodup) (h : field ∈ fields) :
    board.writeAll fields field.slot = some field := by
  induction fields generalizing board with
  | nil => cases h
  | cons first rest ih =>
    rw [List.map_cons, List.nodup_cons] at distinct
    rcases List.mem_cons.mp h with rfl | hrest
    · calc (board.write field).writeAll rest field.slot
          = board.write field field.slot := writeAll_of_notMem _ distinct.1
        _ = some field := if_pos rfl
    · exact ih (board.write first) distinct.2 hrest

/-- The slots that hold something are those that the viewer calls populated, which are those of the
current model's fields, and they hold these fields. -/
structure InStep (board : Board) (v : Viewer) : Prop where
  populated : v.populated = (v.model.map (·.fields.map (·.slot))).getD []
  distinct : v.populated.Nodup
  occupied : ∀ slot, (board slot).isSome = true ↔ slot ∈ v.populated
  holds : ∀ slot field, board slot = some field ↔
    ∃ model, v.model = some model ∧ field ∈ model.fields ∧ field.slot = slot

namespace InStep
variable {board : Board} {v w : Viewer}

/-- Which slots are occupied follows from what they hold. -/
theorem of_holds (populated : v.populated = (v.model.map (·.fields.map (·.slot))).getD [])
    (distinct : v.populated.Nodup)
    (holds : ∀ slot field, board slot = some field ↔
      ∃ model, v.model = some model ∧ field ∈ model.fields ∧ field.slot = slot) : board.InStep v := by
  refine ⟨populated, distinct, ?_, holds⟩
  intro slot
  rw [Option.isSome_iff_exists, populated]
  simp only [holds]
  cases v.model with
  | none => simp
  | some model => simp

theorem of_eq (h : board.InStep v) (model : w.model = v.model)
    (populated : w.populated = v.populated) : board.InStep w := by
  apply of_holds
  · rw [populated, model]
    exact h.populated
  · rw [populated]
    exact h.distinct
  · rw [model]
    exact h.holds

theorem of_bare (bare : ∀ slot, board slot = none) (model : v.model = none)
    (populated : v.populated = []) : board.InStep v := by
  apply of_holds
  · rw [populated, model]
    rfl
  · rw [populated]
    exact List.nodup_nil
  · simp [bare, model]

theorem eq_none (h : board.InStep v) {slot : String} (unpopulated : slot ∉ v.populated) :
    board slot = none := by
  rw [← h.occupied] at unpopulated
  simpa using unpopulated

theorem blank_eq_none (h : board.InStep v) (slot : String) : board.blank v.populated slot = none := by
  by_cases hslot : slot ∈ v.populated
  · exact if_pos hslot
  · exact (if_neg hslot).trans (h.eq_none hslot)

theorem writeAll (h : board.InStep v) (unrendered : v.model = none) {model : Present.Model}
    (distinct : (model.fields.map (·.slot)).Nodup) (rendered : w.model = some model)
    (populated : w.populated = model.fields.map (·.slot)) : (board.writeAll model.fields).InStep w := by
  have bare (slot : String) : board slot = none := by
    apply h.eq_none
    rw [h.populated, unrendered]
    exact List.not_mem_nil
  apply of_holds
  · rw [populated, rendered]
    rfl
  · rw [populated]
    exact distinct
  · intro slot field
    constructor
    · intro hfield
      by_cases hslot : slot ∈ model.fields.map (·.slot)
      · obtain ⟨other, hother, rfl⟩ := List.mem_map.mp hslot
        rw [writeAll_of_mem board distinct hother, Option.some.injEq] at hfield
        subst hfield
        exact ⟨model, rendered, hother, rfl⟩
      · rw [writeAll_of_notMem board hslot, bare] at hfield
        cases hfield
    · rintro ⟨other, hother, hfield, rfl⟩
      rw [rendered, Option.some.injEq] at hother
      subst hother
      exact writeAll_of_mem board distinct hfield

end InStep
end Board

namespace Dialog
variable {console : Console} {actions : List Action} {d : Dialog} {answered : List Nat}
  {board : Board}

def followed (console : Console) (actions : List Action) : Board :=
  (moments console actions).foldl (fun board m =>
    board.follow (step console m.before m.action).1.viewer (step console m.before m.action).2.1) .empty

theorem followed_concat (console : Console) (actions : List Action) (action : Action) :
    followed console (actions ++ [action]) =
      (followed console actions).follow (step console (reached console actions) action).1.viewer
        (step console (reached console actions) action).2.1 := by
  rw [followed, moments_concat, List.foldl_append]
  rfl

/-- The board is in step, and while the request of the newest show is unanswered there is no model. -/
structure Tracks (d : Dialog) (answered : List Nat) (board : Board) : Prop where
  inStep : board.InStep d.viewer
  unanswered : ∀ i request, d.shows[i]? = some request →
    d.viewer.isCurrent request.token = true → i ∉ answered → d.viewer.model = none

namespace Tracks

theorem mono (h : d.Tracks answered board) {more : List Nat} (hmore : answered ⊆ more) :
    d.Tracks more board := by
  refine ⟨h.inStep, ?_⟩
  intro i request found current hi
  exact h.unanswered i request found current (fun hanswered => hi (hmore hanswered))

/-- A show begins, and the interface blanks what the viewer says it has cleared. -/
theorem begin (h : d.Tracks answered board) (object : ManagedObject) (reference : MessageReference)
    (shows : List ShowRequest) :
    Tracks { d with viewer := (d.viewer.beginShow object reference).viewer, shows := shows } answered
      (board.blank d.viewer.populated) where
  inStep := .of_bare h.inStep.blank_eq_none rfl rfl
  unanswered := by
    intro _ _ _ _ _
    rfl

theorem completeInfo (h : d.Tracks answered board) (order : d.TokensInOrder) {i : Nat}
    {request : ShowRequest} (found : d.shows[i]? = some request) (fresh : i ∉ answered)
    (answer : Except ApiError FetchedInfo) (previews : List PreviewRequest) :
    Tracks ⟨(d.viewer.completeInfo console request answer).viewer, d.shows, previews⟩
      (answered ++ [i])
      (board.follow (d.viewer.completeInfo console request answer).viewer
        (.info (d.viewer.completeInfo console request answer).result)) := by
  by_cases current : d.viewer.isCurrent request.token = true
  · have unrendered := h.unanswered i request found current fresh
    have newest (j : Nat) (other : ShowRequest) (hother : d.shows[j]? = some other)
        (hcurrent : d.viewer.isCurrent other.token = true) : j = i := by
      simp only [Viewer.isCurrent, beq_iff_eq] at current hcurrent
      exact order.index_unique hother found (hcurrent.trans current.symm)
    have answeredNow {w : Viewer} (latest : w.latest = d.viewer.latest) (j : Nat)
        (other : ShowRequest) (hother : d.shows[j]? = some other)
        (hcurrent : w.isCurrent other.token = true) : j ∈ answered ++ [i] := by
      rw [Viewer.isCurrent, latest] at hcurrent
      rw [newest j other hother hcurrent]
      simp
    cases answer with
    | error e =>
      rw [Viewer.completeInfo_error current]
      refine ⟨h.inStep.of_eq rfl rfl, ?_⟩
      intro j other hother hcurrent hj
      exact absurd (answeredNow rfl j other hother hcurrent) hj
    | ok fetched =>
      rw [Viewer.completeInfo_ok current]
      refine ⟨h.inStep.writeAll unrendered ?_ rfl rfl, ?_⟩
      · exact Present.Presenter.nodup_slots_build _ _ _ _
      · intro j other hother hcurrent hj
        exact absurd (answeredNow rfl j other hother hcurrent) hj
  · rw [Viewer.completeInfo_stale current]
    refine ⟨h.inStep, ?_⟩
    intro j other hother hcurrent hj
    rw [List.mem_append, not_or] at hj
    exact h.unanswered j other hother hcurrent hj.1

theorem completePreview (h : d.Tracks answered board) (request : PreviewRequest)
    (answer : Except ApiError ContentPayload) :
    Tracks { d with viewer := (d.viewer.completePreview console request answer).viewer } answered
      board := by
  obtain ⟨pane, hpane⟩ := Viewer.completePreview_pane console d.viewer request answer
  rw [hpane]
  exact ⟨h.inStep.of_eq rfl rfl, h.unanswered⟩

theorem hide (h : d.Tracks answered board) (order : d.TokensInOrder) :
    Tracks { d with viewer := d.viewer.hide } answered board where
  inStep := h.inStep.of_eq rfl rfl
  unanswered := by
    intro i request found hcurrent _
    have hdrawn := order.drawn request (List.mem_of_getElem? found)
    simp only [Viewer.hide, Viewer.isCurrent, beq_iff_eq] at hcurrent
    omega

/-- Every action keeps the board in step, unless it answers a request once more. -/
theorem step (h : d.Tracks answered board) (order : d.TokensInOrder) (action : Action)
    (once : (answered ++ (answersShow? ⟨d, action⟩).toList).Nodup) :
    (step console d action).1.Tracks (answered ++ (answersShow? ⟨d, action⟩).toList)
      (board.follow (Dialog.step console d action).1.viewer
        (Dialog.step console d action).2.1) := by
  have turn := turn_step console d action
  generalize (Dialog.step console d action).1 = after, (Dialog.step console d action).2.1 = reply,
    (Dialog.step console d action).2.2 = reports at turn ⊢
  have more : answered ⊆ answered ++ (answersShow? ⟨d, action⟩).toList := List.subset_append_left _ _
  cases turn with
  | begin object reference => exact (h.begin object reference _).mono more
  | @completeInfo i request answer found =>
    have answers : answersShow? ⟨d, .completeInfo i answer⟩ = some i :=
      if_pos (List.getElem?_eq_some_iff.mp found).1
    rw [answers] at once ⊢
    refine h.completeInfo order found ?_ answer _
    intro again
    exact (List.nodup_append.mp once).2.2 i again i (List.mem_singleton_self i) rfl
  | completePreview answer found => exact (h.completePreview _ answer).mono more
  | hide => exact (h.hide order).mono more
  | noShow answer absent => exact h.mono more
  | noPreview answer absent => exact h.mono more

end Tracks

theorem tracks_followed (once : AnsweredOnce console actions) :
    (reached console actions).Tracks (answeredShows console actions) (followed console actions) := by
  induction actions using List.reverseRecOn with
  | nil => exact ⟨.of_bare (fun _ => rfl) rfl rfl, nofun⟩
  | append_singleton actions action ih =>
    have htracks := ih once.of_append
    rw [AnsweredOnce, answeredShows_concat] at once
    rw [reached_concat, answeredShows_concat, followed_concat]
    exact htracks.step (tokensInOrder_reached console actions) action once

/-- At every moment of a run in which no show request is answered twice, the interface holds what the
viewer says is on the screen, and nothing else. -/
theorem run_keepsBoardInStep (console : Console) (actions : List Action)
    (once : AnsweredOnce console actions) :
    ∀ earlier, earlier <+: actions →
      (followed console earlier).InStep (reached console earlier).viewer := by
  rintro earlier ⟨later, rfl⟩
  exact (tracks_followed once.of_append).inStep

/-- A hidden dialog keeps its fields, and the headers of the message before are gone once the next
one is shown. -/
theorem run_keepsBoardInStep_of_hide :
    let console : Console := ⟨Present.Presenter.standard, fun _ _ => ""⟩
    let queue := ManagedObject.queue "node" "host" "q"
    let first : MessageInfo := ⟨⟨⟨"1"⟩, 0, none⟩,
      .ofList [("id", .number (.int 1)), ("headers", .object [("k", .null)]), ("other", .null)]⟩
    let second : MessageInfo := ⟨⟨⟨"3"⟩, 0, none⟩,
      .ofList [("userId", .null), ("id", .number (.int 3))]⟩
    let earlier : List Action :=
      [.begin queue ⟨⟨"1"⟩, 0, none⟩, .completeInfo 0 (.ok ⟨first, .headersIncluded⟩), .hide]
    let later : List Action :=
      [.begin queue ⟨⟨"2"⟩, 0, none⟩, .begin queue ⟨⟨"3"⟩, 0, none⟩,
        .completeInfo 2 (.ok ⟨second, .headersExcluded⟩),
        .completeInfo 1 (.ok ⟨first, .headersExcluded⟩)]
    AnsweredOnce console (earlier ++ later) ∧ earlier <+: earlier ++ later ∧
      (reached console earlier).viewer.populated = ["id", "headers"] ∧
      (followed console earlier).InStep (reached console earlier).viewer ∧
      (reached console (earlier ++ later)).viewer.populated = ["userId", "id"] ∧
      (followed console (earlier ++ later)).InStep (reached console (earlier ++ later)).viewer := by
  intro console queue first second earlier later
  have once : AnsweredOnce console (earlier ++ later) := by
    unfold AnsweredOnce
    decide +kernel
  have inStep := run_keepsBoardInStep console (earlier ++ later) once
  exact ⟨once, List.prefix_append _ _, by decide +kernel, inStep _ (List.prefix_append _ _),
    by decide +kernel, inStep _ List.prefix_rfl⟩

end Dialog
end MessageInspector
