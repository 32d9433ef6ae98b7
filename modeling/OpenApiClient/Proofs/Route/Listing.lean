import OpenApiClient.Proofs.Route.Sequence

set_option autoImplicit false

namespace OpenApiClient

theorem Code.File.functions_foldl (functions : List Code.Function) (file : Code.File)
    (distinct : (file.functions.keys ++ functions.map (·.name)).Nodup) :
    (functions.foldl addFunction file).functions =
      file.functions ++ functions.map fun function => (function.name, function) := by
  induction functions generalizing file with
  | nil => simp
  | cons function rest ih =>
    have free : function.name ∉ file.functions.keys := by
      intro taken
      exact (List.nodup_append.mp distinct).2.2 _ taken _ List.mem_cons_self rfl
    have added : (file.addFunction function).functions =
        file.functions ++ [(function.name, function)] :=
      Entries.put_of_not_mem _ _ _ free
    rw [List.foldl_cons, ih (file.addFunction function), added]
    · simp
    · rw [added]
      simpa [Entries.keys] using distinct

theorem Code.File.foldl_addFunction (functions : List Code.Function) (file : Code.File) :
    functions.foldl addFunction file =
      { file with functions := (functions.foldl addFunction file).functions } := by
  induction functions generalizing file with
  | nil => rfl
  | cons function rest ih => exact ih (file.addFunction function)

namespace Code.Function

variable {α : Type} {toFunction : α → Int → Function}

theorem map_numberedDown {β : Type} (toFunction : α → Int → Function) (f : Function → β) (g : α → β)
    (same : ∀ item order, f (toFunction item order) = g item) (order : Int) (items : List α) :
    (numberedDown toFunction order items).map f = items.map g := by
  induction items generalizing order with
  | nil => rfl
  | cons item rest ih => rw [numberedDown, List.map_cons, List.map_cons, same, ih]

theorem mem_numberedDown {items : List α} {item : α} (member : item ∈ items) (order : Int) :
    ∃ place, toFunction item place ∈ numberedDown toFunction order items := by
  induction items generalizing order with
  | nil => cases member
  | cons first rest ih =>
    rcases List.mem_cons.mp member with rfl | behind
    · exact ⟨order, List.mem_cons_self⟩
    · obtain ⟨place, inside⟩ := ih behind (order - 1)
      exact ⟨place, List.mem_cons_of_mem _ inside⟩

theorem exists_of_mem_numberedDown {items : List α} {order : Int} {function : Function}
    (member : function ∈ numberedDown toFunction order items) :
    ∃ item ∈ items, ∃ place ≤ order, function = toFunction item place := by
  induction items generalizing order with
  | nil => cases member
  | cons item rest ih =>
    rcases List.mem_cons.mp member with rfl | behind
    · exact ⟨item, List.mem_cons_self, order, Int.le_refl order, rfl⟩
    · obtain ⟨item, inside, place, below, made⟩ := ih behind
      exact ⟨item, List.mem_cons_of_mem _ inside, place, by omega, made⟩

theorem pairwise_numberedDown (numbered : ∀ item order, (toFunction item order).order = order)
    (order : Int) (items : List α) :
    (numberedDown toFunction order items).Pairwise fun first second =>
      second.order ≤ first.order := by
  induction items generalizing order with
  | nil => exact .nil
  | cons item rest ih =>
    refine .cons (fun function member => ?_) (ih (order - 1))
    obtain ⟨other, -, place, below, rfl⟩ := exists_of_mem_numberedDown member
    rw [numbered, numbered]
    omega

end Code.Function

namespace Routes

open Route

theorem names_nodup (document : Document) : ((routes document).items.map (·.name)).Nodup := by
  obtain ⟨before, given⟩ := routes_given document
  rw [given.routeNames]
  simpa [Registered.empty, Entries.keys] using given.names

theorem routes_operations {document : Document} (done : (routes document).failure = none) :
    List.Forall₂ (fun entry route =>
        route.name = Name.function (entry.2.2.2.operationId.getD "") ∧
          ∃ parameters, Parts document.components entry.1 entry.2.1 entry.2.2.1.name entry.2.2.2
            parameters route)
      document.operations (routes document).items := by
  have functions := (calls_given done).1
  rw [document.calls_eq, List.forall₂_map_left_iff] at functions
  refine functions.imp fun entry route made => ?_
  have named := Call.name_of_alone made
  rw [Call.alone, Call.result] at made
  rw [Call.functionName, Call.operationId] at named
  obtain ⟨_, _, parts⟩ := generate_eq_ok_iff.mp made
  exact ⟨named, parts⟩

theorem names_functionsFrom (order : Int) (routes : List Route) :
    (functionsFrom order routes).map (·.name) = routes.map (·.name) :=
  Code.Function.map_numberedDown Route.toFunction _ _ (fun _ _ => rfl) order routes

@[simp] theorem name_file (folder : String) (count : Nat) (routes : List Route) :
    (file folder count routes).name = folder ++ "/routes.py" := by
  rw [file, Code.File.foldl_addFunction]
  rfl

theorem functions_file (folder : String) (count : Nat) (document : Document) :
    (file folder count (routes document).items).functions =
      (functionsFrom count (routes document).items).map fun function =>
        (function.name, function) := by
  rw [file, Code.File.functions_foldl]
  · simp [Code.File.named]
  · rw [names_functionsFrom]
    exact names_nodup document

theorem values_file (folder : String) (count : Nat) (document : Document) :
    (file folder count (routes document).items).functions.values =
      functionsFrom count (routes document).items := by
  rw [functions_file, Entries.values, List.map_map]
  exact List.map_id _

theorem file_eq (folder : String) (count : Nat) (document : Document) :
    file folder count (routes document).items =
      { Code.File.named (folder ++ "/routes.py") with
        imports := imports
        functions := (functionsFrom count (routes document).items).map fun function =>
          (function.name, function) } := by
  rw [← functions_file folder]
  exact Code.File.foldl_addFunction _ _

end Routes
end OpenApiClient
