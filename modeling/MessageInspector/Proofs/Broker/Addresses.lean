import Mathlib.Data.List.TakeWhile
import MessageInspector.Broker.Operation
import MessageInspector.Proofs.Text.PercentDecoding
/-!
# Reading addresses

The part of an address after its root is cut at its separators, and each piece is decoded. No piece
contains a separator of its own, so the object, the operation and the parameters come back as they
were, and two targets never share an address.
-/
namespace MessageInspector

/-- What the address of an operation names. -/
structure OperationTarget where
  object : ManagedObject
  operation : String
  parameters : List (String × String)
deriving DecidableEq, Repr

namespace OperationTarget

/-- The parts before and after the first separator. Without one there is no second part. -/
def cutAt (separator : Char) (cs : List Char) : List Char × Option (List Char) :=
  (cs.takeWhile (· != separator), (cs.dropWhile (· != separator)).tail?)

def ofSegments? : List String → Option (ManagedObject × String)
  | kind :: segment :: more =>
    some (⟨kind, (segment :: more).dropLast⟩, (segment :: more).getLast (List.cons_ne_nil _ _))
  | _ => none

def readParameter? (piece : List Char) : Option (String × String) :=
  match cutAt '=' piece with
  | (key, some value) => do some (← Percent.decode? key, ← Percent.decode? value)
  | (_, none) => none

def readParameters? : Option (List Char) → Option (List (String × String))
  | none => some []
  | some query => (query.splitOn '&').mapM readParameter?

/-- The target that an address names after its root. -/
def read? (address : List Char) : Option OperationTarget :=
  let parts := cutAt '?' address
  do
    let segments ← (parts.1.splitOn '/').mapM Percent.decode?
    let named ← ofSegments? segments
    let parameters ← readParameters? parts.2
    some ⟨named.1, named.2, parameters⟩

theorem passes_of_notMem {separator : Char} {cs : List Char} (h : separator ∉ cs) :
    ∀ c ∈ cs, (c != separator) = true := by
  intro c hc
  rw [bne_iff_ne]
  rintro rfl
  exact h hc

theorem cutAt_of_notMem {separator : Char} {cs : List Char} (h : separator ∉ cs) :
    cutAt separator cs = (cs, none) := by
  have hpasses := passes_of_notMem h
  rw [cutAt, List.takeWhile_eq_self_iff.mpr hpasses, List.dropWhile_eq_nil_iff.mpr hpasses]
  rfl

theorem cutAt_append {separator : Char} {cs : List Char} (h : separator ∉ cs) (rest : List Char) :
    cutAt separator (cs ++ separator :: rest) = (cs, some rest) := by
  have hpasses := passes_of_notMem h
  rw [cutAt, List.takeWhile_append_of_pos hpasses, List.dropWhile_append_of_pos hpasses]
  simp

theorem ofSegments?_append (object : ManagedObject) (operation : String) :
    ofSegments? (object.kind :: object.path ++ [operation]) = some (object, operation) := by
  obtain ⟨kind, path⟩ := object
  cases path with
  | nil => rfl
  | cons segment more =>
    have hlast := List.getLast_append_singleton (a := operation) (segment :: more)
    have hinit : (segment :: more ++ [operation]).dropLast = segment :: more := List.dropLast_concat
    simp only [List.cons_append] at hlast hinit ⊢
    rw [ofSegments?, hlast, hinit]

theorem mapM_map_eq_some {α : Type} {write : α → List Char} {read : List Char → Option α}
    (h : ∀ x, read (write x) = some x) (xs : List α) : (xs.map write).mapM read = some xs := by
  induction xs with
  | nil => rfl
  | cons x xs ih => simp [h x, ih]

theorem notMem_intercalate {c separator : Char} {pieces : List (List Char)} (hc : c ≠ separator)
    (h : ∀ piece ∈ pieces, c ∉ piece) : c ∉ [separator].intercalate pieces := by
  induction pieces with
  | nil => simp
  | cons piece pieces ih =>
    have hpiece := h piece List.mem_cons_self
    have hpieces := ih fun other hother => h other (List.mem_cons_of_mem _ hother)
    cases pieces with
    | nil => simpa using hpiece
    | cons next pieces => simp [List.intercalate_cons_cons, hpiece, hc, hpieces]

end OperationTarget

namespace ManagedObject
open OperationTarget

theorem slash_notMem_segment (s : String) : '/' ∉ (Percent.encodeSegment s).toList :=
  Percent.not_mem_encode (b := 0x2F) (by decide) (by decide) s

theorem question_notMem_segment (s : String) : '?' ∉ (Percent.encodeSegment s).toList :=
  Percent.not_mem_encode (b := 0x3F) (by decide) (by decide) s

theorem ampersand_notMem_query (s : String) : '&' ∉ (Percent.encodeQuery s).toList :=
  Percent.not_mem_encode (b := 0x26) (by decide) (by decide) s

theorem equals_notMem_query (s : String) : '=' ∉ (Percent.encodeQuery s).toList :=
  Percent.not_mem_encode (b := 0x3D) (by decide) (by decide) s

def pathPieces (target : OperationTarget) : List (List Char) :=
  (target.object.kind :: target.object.path ++ [target.operation]).map fun s =>
    (Percent.encodeSegment s).toList

theorem readPath (target : OperationTarget) :
    ((['/'].intercalate (pathPieces target)).splitOn '/').mapM Percent.decode? =
      some (target.object.kind :: target.object.path ++ [target.operation]) := by
  have hfree : ∀ piece ∈ pathPieces target, '/' ∉ piece := by
    intro piece hpiece
    obtain ⟨s, -, rfl⟩ := List.mem_map.mp hpiece
    exact slash_notMem_segment s
  rw [List.splitOn_intercalate '/' hfree (by simp [pathPieces]), pathPieces]
  exact mapM_map_eq_some (fun s => Percent.decode?_encode Percent.covers_path s) _

theorem readParameter?_encode (parameter : String × String) :
    readParameter? (encodeParameter parameter).toList = some parameter := by
  have hcut := cutAt_append (equals_notMem_query parameter.1)
    (Percent.encodeQuery parameter.2).toList
  have htext : (encodeParameter parameter).toList =
      (Percent.encodeQuery parameter.1).toList ++
        '=' :: (Percent.encodeQuery parameter.2).toList := by
    simp [encodeParameter]
  have hkey := Percent.decode?_encode Percent.covers_query parameter.1
  have hvalue := Percent.decode?_encode Percent.covers_query parameter.2
  rw [readParameter?, htext, hcut]
  simp only [Percent.encodeQuery, hkey, hvalue]
  rfl

theorem ampersand_notMem_encodeParameter (parameter : String × String) :
    '&' ∉ (encodeParameter parameter).toList := by
  simp [encodeParameter, ampersand_notMem_query]

theorem readParameters?_query {parameters : List (String × String)} (h : parameters ≠ []) :
    readParameters?
      (some (['&'].intercalate (parameters.map fun p => (encodeParameter p).toList))) =
      some parameters := by
  have hfree : ∀ piece ∈ parameters.map fun p => (encodeParameter p).toList, '&' ∉ piece := by
    intro piece hpiece
    obtain ⟨p, -, rfl⟩ := List.mem_map.mp hpiece
    exact ampersand_notMem_encodeParameter p
  rw [readParameters?, List.splitOn_intercalate '&' hfree (by simpa using h)]
  exact mapM_map_eq_some readParameter?_encode _

theorem question_notMem_path (target : OperationTarget) :
    '?' ∉ ['/'].intercalate (pathPieces target) := by
  apply notMem_intercalate (by decide)
  intro piece hpiece
  obtain ⟨s, -, rfl⟩ := List.mem_map.mp hpiece
  exact question_notMem_segment s

def addressRest (target : OperationTarget) : String :=
  String.intercalate "/" ((target.object.kind :: target.object.path ++ [target.operation]).map
      Percent.encodeSegment) ++
    queryPart target.parameters

theorem operationUrl_eq (target : OperationTarget) (base : String) :
    target.object.operationUrl base target.operation target.parameters =
      trimBase base ++ "/api/latest/" ++ addressRest target := by
  simp only [operationUrl, addressRest, String.append_assoc]

theorem toList_addressRest (target : OperationTarget) :
    (addressRest target).toList =
      ['/'].intercalate (pathPieces target) ++ (queryPart target.parameters).toList := by
  rw [addressRest, String.toList_append, String.toList_intercalate, List.map_map]
  rfl

theorem cutAt_addressRest (target : OperationTarget) :
    cutAt '?' (addressRest target).toList =
      (['/'].intercalate (pathPieces target),
        if target.parameters = [] then none
        else some
          (['&'].intercalate (target.parameters.map fun p => (encodeParameter p).toList))) := by
  have hpath := question_notMem_path target
  rw [toList_addressRest, queryPart]
  by_cases hnone : target.parameters = []
  · simp [hnone, cutAt_of_notMem hpath]
  · have hcut := cutAt_append hpath
      (['&'].intercalate (target.parameters.map fun p => (encodeParameter p).toList))
    simp [hnone, String.toList_intercalate, List.map_map, Function.comp_def, hcut]

theorem read?_addressRest (target : OperationTarget) :
    read? (addressRest target).toList = some target := by
  have hquery : readParameters? (cutAt '?' (addressRest target).toList).2 =
      some target.parameters := by
    rw [cutAt_addressRest]
    by_cases hnone : target.parameters = []
    · simp only [hnone, if_true, readParameters?]
    · simp only [if_neg hnone, readParameters?_query hnone]
  have hpath : ((cutAt '?' (addressRest target).toList).1.splitOn '/').mapM Percent.decode? =
      some (target.object.kind :: target.object.path ++ [target.operation]) := by
    rw [cutAt_addressRest, readPath]
  simp only [read?, hpath, hquery, ofSegments?_append, Option.bind_eq_bind, Option.bind_some]

example :
    read? "queue/vh%2F1//getMessageContent?messageId=a%26b%3d&limit=".toList =
      some ⟨⟨"queue", ["vh/1", ""]⟩, getMessageContent,
        [("messageId", "a&b="), ("limit", "")]⟩ := by
  decide +kernel

theorem trimBase_spec (base : String) :
    ∃ slashes : List Char, base.toList = (trimBase base).toList ++ slashes ∧
      (∀ c ∈ slashes, c = '/') ∧ (trimBase base).toList.getLast? ≠ some '/' := by
  let reversed := base.toList.reverse
  have hsplit : base.toList =
      (reversed.dropWhile (· = '/')).reverse ++ (reversed.takeWhile (· = '/')).reverse := by
    rw [← List.reverse_append, List.takeWhile_append_dropWhile, List.reverse_reverse]
  refine ⟨(reversed.takeWhile (· = '/')).reverse, ?_, ?_, ?_⟩
  · rw [trimBase, String.toList_ofList]
    exact hsplit
  · intro c hc
    have hslash := List.mem_takeWhile_imp (List.mem_reverse.mp hc)
    simpa using hslash
  · rw [trimBase, String.toList_ofList, List.getLast?_reverse]
    intro hlast
    have hstop := List.head?_dropWhile_not (fun c => decide (c = '/')) reversed
    rw [hlast] at hstop
    simp at hstop

/-- What stands in an address after its root reads back as the object, the operation and the
parameters, and there is a query in it exactly if there is a parameter. -/
theorem operationUrl_unambiguous (base : String) :
    (∃ slashes : List Char, base.toList = (trimBase base).toList ++ slashes ∧
        (∀ c ∈ slashes, c = '/') ∧ (trimBase base).toList.getLast? ≠ some '/') ∧
      (∀ target : OperationTarget, ∃ rest,
        target.object.operationUrl base target.operation target.parameters =
          trimBase base ++ "/api/latest/" ++ rest ∧
        read? rest.toList = some target ∧
        ((cutAt '?' rest.toList).2.isSome ↔ target.parameters ≠ [])) ∧
      Function.Injective fun target : OperationTarget =>
        target.object.operationUrl base target.operation target.parameters := by
  refine ⟨trimBase_spec base, ?_, ?_⟩
  · intro target
    refine ⟨addressRest target, operationUrl_eq target base, read?_addressRest target, ?_⟩
    rw [cutAt_addressRest]
    by_cases hnone : target.parameters = [] <;> simp [hnone]
  · intro target target' hurl
    have hrest : addressRest target = addressRest target' := by
      simp only [operationUrl_eq] at hurl
      exact String.append_right_inj _ |>.mp hurl
    have hread := read?_addressRest target
    rw [hrest, read?_addressRest target'] at hread
    exact (Option.some.inj hread).symm

end ManagedObject
end MessageInspector
