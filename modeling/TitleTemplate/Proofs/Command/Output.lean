import TitleTemplate.Command.Disk
import TitleTemplate.Proofs.Text.Division

/-!
What a run with an output file leaves behind. Nothing is put on the disk before the run has
succeeded, and what is put there is the text that the run would have printed; so the file is either
whole or as it was.
-/
namespace TitleTemplate.Command

theorem isStandard_standard : isStandard standard = true := by decide

theorem endsWith_iff {path ending : String} :
    path.endsWith ending = true ↔ ending.toList <:+ path.toList := by
  rw [← String.endsWith_toSlice, String.Slice.endsWith_string_iff, String.copy_toSlice]

theorem pathParts_divided (path : String) : ∃ front part,
    splitAtChar '/' path.toList = front ++ [part] ∧
      pathParts path = front.map String.ofList ++ [String.ofList part] := by
  obtain ⟨front, part, divided⟩ := List.eq_nil_or_concat' (splitAtChar '/' path.toList)
    |>.resolve_left (splitAtChar_ne_nil '/' path.toList)
  exact ⟨front, part, divided, by simp [pathParts, divided]⟩

theorem pathParts_last {path : String} (named : path ≠ "") (shut : path.endsWith "/" = false) :
    ∃ front last, pathParts path = front ++ [last] ∧ last ≠ "" := by
  obtain ⟨front, part, divided, parts⟩ := pathParts_divided path
  refine ⟨_, _, parts, fun nothing => ?_⟩
  have empty : part = [] := by simpa using nothing
  subst empty
  rcases last_part divided with ⟨-, whole⟩ | ⟨-, slash⟩
  · exact named (by simpa using whole)
  · have open_ : path.endsWith "/" = true := endsWith_iff.2 slash
    exact Bool.noConfusion (shut.symm.trans open_)

theorem suffix_pathFrom (directory name : String) :
    name.toList <:+ (pathFrom directory name).toList := by
  rw [pathFrom]
  split_ifs
  · exact List.suffix_rfl
  · rw [String.toList_append]
    exact List.suffix_append _ _
  · rw [String.toList_append]
    exact List.suffix_append _ _

theorem pathFrom_ne_empty (directory name : String) : pathFrom directory name ≠ "" := by
  rw [pathFrom]
  split_ifs with absolute slash
  · rintro rfl
    exact absurd absolute (by decide)
  · intro empty
    rw [String.append_eq_empty_iff] at empty
    rw [empty.1] at slash
    exact absurd slash (by decide)
  · intro empty
    rw [String.append_eq_empty_iff, String.append_eq_empty_iff] at empty
    exact absurd empty.1.2 (by decide)

namespace Disk

/-- The parts of a path up to the last one that is not empty. -/
def namedParts (path : String) : List String :=
  ((pathParts path).reverse.dropWhile (· = "")).reverse

theorem namedParts_eq {path : String} {front : List String} {last : String}
    (divided : pathParts path = front ++ [last]) (named : last ≠ "") :
    namedParts path = pathParts path := by
  rw [namedParts, divided, List.reverse_append, List.reverse_singleton, List.singleton_append,
    List.dropWhile_cons_of_neg (by simpa using named), List.reverse_cons, List.reverse_reverse]

def holding (disk : Disk) (place : Place) (text : String) : Disk :=
  { disk with files := (place, text) :: disk.files }

theorem lookup_holding (disk : Disk) {place other : Place} (text : String) :
    (disk.holding place text).files.lookup other =
      if other = place then some text else disk.files.lookup other := by
  rw [holding, List.lookup_cons]
  by_cases same : other = place
  · rw [if_pos same, beq_iff_eq.2 same]
  · rw [if_neg same, beq_eq_false_iff_ne.2 same]

theorem isDirectory_holding (disk : Disk) (place other : Place) (text : String) :
    (disk.holding place text).isDirectory other = disk.isDirectory other := rfl

theorem guarded_eq_ok {ε α : Type} {fails : Prop} [Decidable fails] {fault : ε} {rest : Except ε α}
    {a : α} :
    (if fails then (throw fault : Except ε Unit) >>= fun _ => rest else rest) = .ok a ↔
      ¬fails ∧ rest = .ok a := by
  by_cases failing : fails
  · simp [failing, throw, throwThe, MonadExceptOf.throw, bind, Except.bind]
  · simp [failing]

theorem approach_eq_ok {disk : Disk} {path last : String} {parts : List String} {here : Place} :
    disk.approach path parts = .ok (here, last) ↔
      ¬longestPath < path.utf8ByteSize ∧ disk.enter [] parts.dropLast = .ok here ∧
        parts.getLastD "" = last ∧ ¬longestName < last.utf8ByteSize := by
  simp only [approach, guarded_eq_ok, bind_eq_ok, pure, Except.pure, Except.ok.injEq, Prod.mk.injEq]
  constructor
  · rintro ⟨path_fits, _, entered, name_fits, rfl, rfl⟩
    exact ⟨path_fits, entered, rfl, name_fits⟩
  · rintro ⟨path_fits, entered, rfl, name_fits⟩
    exact ⟨path_fits, here, entered, name_fits, rfl, rfl⟩

theorem put_eq_ok {disk after : Disk} {path text : String} :
    disk.put path text = .ok after ↔
      ∃ here last, disk.approach path (namedParts path) = .ok (here, last) ∧
        (last = "." || last = "..") = false ∧ path.endsWith "/" = false ∧
        disk.isDirectory (last :: here) = false ∧
        disk.holding (last :: here) text = after := by
  simp only [put, bind_eq_ok, guarded_eq_ok, Prod.exists, Bool.not_eq_true, pure, Except.pure,
    Except.ok.injEq, namedParts, holding]

theorem enter_holding {disk : Disk} {here there : Place} {parts : List String}
    (entered : disk.enter here parts = .ok there) (place : Place) (text : String) :
    (disk.holding place text).enter here parts = .ok there := by
  induction parts generalizing here with
  | nil => exact entered
  | cons part parts ih =>
    rw [enter] at entered ⊢
    rw [isDirectory_holding]
    split_ifs at entered ⊢ with still back long directory
    · exact ih entered
    · exact ih entered
    · exact ih entered

theorem read_put {disk after : Disk} {path text : String} (named : path ≠ "")
    (taken : disk.put path text = .ok after) : after.read path = .ok text := by
  obtain ⟨here, last, approached, moving, shut, free, rfl⟩ := put_eq_ok.1 taken
  obtain ⟨front, final, divided, final_named⟩ := pathParts_last named shut
  rw [namedParts_eq divided final_named] at approached
  obtain ⟨path_fits, entered, final_last, last_fits⟩ := approach_eq_ok.1 approached
  have same : final = last := by rw [← final_last, divided]; simp
  subst same
  obtain ⟨dot, dots⟩ := Bool.or_eq_false_iff.1 moving
  have leads : (isStill final || final = ".." ||
      (disk.holding (final :: here) text).isDirectory (final :: here)) = false := by
    rw [isDirectory_holding, free]
    simp_all [isStill]
  have again := approach_eq_ok.2
    ⟨path_fits, enter_holding entered (final :: here) text, final_last, last_fits⟩
  rw [read, bind_eq_ok]
  refine ⟨(here, final), again, guarded_eq_ok.2 ⟨ne_true_of_eq_false leads, ?_⟩⟩
  rw [lookup_holding, if_pos rfl]
  rfl

/-- The disk takes a file at a path: a file can be put in its place there. -/
def Takes (disk : Disk) (path : String) : Prop := ∃ text, (disk.put path text).isOk = true

theorem put_of_takes {disk : Disk} {path : String} (takes : disk.Takes path) :
    ∃ place, ∀ text, disk.put path text = .ok (disk.holding place text) := by
  obtain ⟨text, ok⟩ := takes
  cases taken : disk.put path text with
  | error fault =>
    rw [taken] at ok
    cases ok
  | ok after =>
    obtain ⟨here, last, approached, moving, shut, free, -⟩ := put_eq_ok.1 taken
    exact ⟨last :: here, fun _ => put_eq_ok.2 ⟨here, last, approached, moving, shut, free, rfl⟩⟩

theorem not_takes {disk : Disk} {path : String} {front : List String} {last : String}
    (divided : pathParts path = front ++ [last]) (still : isStill last = true)
    (shut : last = "" → path.endsWith "/" = true) : ¬disk.Takes path := by
  intro takes
  obtain ⟨place, puts⟩ := put_of_takes takes
  obtain ⟨here, final, approached, moving, shut', -, -⟩ := put_eq_ok.1 (puts "")
  by_cases empty : last = ""
  · rw [shut empty] at shut'
    exact Bool.noConfusion shut'
  · rw [namedParts_eq divided empty] at approached
    obtain ⟨-, -, same, -⟩ := approach_eq_ok.1 approached
    rw [divided] at same
    simp_all [isStill]

end Disk

/-- A name that stands for standard output, but is written in another way, leads to no file. -/
theorem named_of_takes {disk : Disk} {directory name : String} (other : name ≠ standard)
    (takes : disk.Takes (pathFrom directory name)) : isStandard name = false := by
  by_contra stands
  obtain ⟨front, part, divided, parts⟩ := pathParts_divided name
  rw [isStandard, parts] at stands
  rcases last_part divided with ⟨rfl, whole⟩ | ⟨several, ending⟩
  · have only : String.ofList part = standard := by simpa using stands
    exact other (by rw [← only, ← whole, String.ofList_toList])
  · have still : isStill (String.ofList part) = true := by
      obtain ⟨first, rest, rfl⟩ := List.exists_cons_of_ne_nil several
      simp_all
    obtain ⟨before, path_eq⟩ := ending.trans (suffix_pathFrom directory name)
    have clean : '/' ∉ part := by
      have short : part = [] ∨ String.ofList part = "." := by simpa [isStill] using still
      rcases short with rfl | dot
      · exact List.not_mem_nil
      · rw [← String.toList_ofList (l := part), dot]
        decide
    have path_divided : pathParts (pathFrom directory name) =
        (splitAtChar '/' before).map String.ofList ++ [String.ofList part] := by
      rw [pathParts, ← path_eq, splitAtChar_mark, splitAtChar_part clean, List.map_append,
        List.map_singleton]
    refine Disk.not_takes path_divided still (fun empty => ?_) takes
    have nothing : part = [] := by simpa using empty
    subst nothing
    exact endsWith_iff.2 ⟨before, path_eq⟩

section
variable {around : Surroundings} {i : Invocation} {source : String} {failure : Failure}
  {opened : List Notice}

theorem run_unread (unread : readSource around "template" i.template = .error failure) :
    run around i = ⟨"", none, some failure, []⟩ := by
  simp only [run, unread, bind, Except.bind]

theorem run_unopened (read : readSource around "template" i.template = .ok source)
    (unopened : openOutput around i.output = .error failure) :
    run around i = ⟨"", none, some failure, []⟩ := by
  simp only [run, read, unopened, bind, Except.bind]

theorem run_printing (read : readSource around "template" i.template = .ok source) :
    let produced := produce (around.past i.template) i source
    run around { i with output := standard } =
      ⟨produced.text, none, produced.failure, produced.notices⟩ := by
  have opens : openOutput around standard = .ok [] := by
    simp only [openOutput, isStandard_standard, if_true, pure, Except.pure]
  simp only [run, read, opens, bind, Except.bind, pure, Except.pure, isStandard_standard, if_true,
    List.nil_append]
  rfl

theorem run_named (named : isStandard i.output = false)
    (read : readSource around "template" i.template = .ok source)
    (opens : openOutput around i.output = .ok opened) :
    let produced := produce (around.past i.template) i source
    run around i = match produced.failure with
      | none => ⟨"", some (pathFrom around.directory i.output, produced.text), none,
          opened ++ produced.notices⟩
      | some failure => ⟨"", none, some failure, opened ++ produced.notices⟩ := by
  simp only [run, read, opens, bind, Except.bind, pure, Except.pure, named]
  rfl

theorem written_of_standard (stands : isStandard i.output = true) :
    (run around i).written = none := by
  cases read : readSource around "template" i.template with
  | error failure => rw [run_unread read]
  | ok source =>
    cases opens : openOutput around i.output with
    | error failure => rw [run_unopened read opens]
    | ok opened =>
      simp only [run, read, opens, bind, Except.bind, pure, Except.pure, stands, if_true]

/-- A run with a named output prints nothing. It succeeds with what it would have printed, or it
fails and has nothing to write; and it fails only if the output cannot be opened or if printing
would have failed. -/
theorem run_cases (around : Surroundings) (named : isStandard i.output = false) :
    let plain := run around { i with output := standard }
    (∃ failure notices, run around i = ⟨"", none, some failure, notices⟩ ∧
      ((openOutput around i.output).isOk = true → plain.failure ≠ none)) ∨
    ∃ notices, run around i =
      ⟨"", some (pathFrom around.directory i.output, plain.printed), none, notices⟩ ∧
        plain.failure = none := by
  cases read : readSource around "template" i.template with
  | error failure =>
    have unread : readSource around "template" { i with output := standard }.template =
      .error failure := read
    refine .inl ⟨failure, [], run_unread read, fun _ => ?_⟩
    simp [run_unread unread]
  | ok source =>
    simp only [run_printing read]
    cases opens : openOutput around i.output with
    | error failure =>
      exact .inl ⟨failure, [], run_unopened read opens, fun opened => by cases opened⟩
    | ok opened =>
      rw [run_named named read opens]
      cases (produce (around.past i.template) i source).failure with
      | none => exact .inr ⟨_, rfl, rfl⟩
      | some failure => exact .inl ⟨failure, _, rfl, fun _ => Option.some_ne_none failure⟩

end

theorem Outcome.exitCode_of_success {o : Outcome} (success : o.failure = none) :
    o.exitCode = 0 := by
  rw [exitCode, success]
  rfl

theorem Outcome.exitCode_of_failure {o : Outcome} (failed : o.failure ≠ none) :
    o.exitCode = 1 := by
  rw [exitCode, Option.isNone_eq_false_iff.2 (Option.isSome_iff_ne_none.2 failed)]
  rfl

namespace Disk
variable {disk : Disk} {directory standardInput : String} {i : Invocation}

theorem run_unwritten
    (unwritten : (Command.run (disk.around directory standardInput) i).written = none) :
    disk.run directory standardInput i =
      (Command.run (disk.around directory standardInput) i, disk) := by
  rw [run, unwritten]

theorem run_taken {outcome : Outcome} {path text : String} {after : Disk}
    (made : Command.run (disk.around directory standardInput) i = outcome)
    (written : outcome.written = some (path, text)) (taken : disk.put path text = .ok after) :
    disk.run directory standardInput i = (outcome, after) := by
  simp only [run, made, written, taken]

theorem run_refused {outcome : Outcome} {path text : String} {fault : PathFault}
    (made : Command.run (disk.around directory standardInput) i = outcome)
    (written : outcome.written = some (path, text)) (refused : disk.put path text = .error fault) :
    disk.run directory standardInput i = (outcome.unwritten path fault.message, disk) := by
  simp only [run, made, written, refused]

/-- A run with a named output fails and leaves the disk as it was, or its text is put in its place.
It fails only if the output cannot be opened or put in its place, or if printing would fail. -/
theorem run_cases (disk : Disk) (directory standardInput : String)
    (named : isStandard i.output = false) :
    let around := disk.around directory standardInput
    let path := pathFrom directory i.output
    let ran := disk.run directory standardInput i
    let plain := Command.run around { i with output := standard }
    (ran.1.failure ≠ none ∧ ran.2 = disk ∧
      (disk.Takes path → (openOutput around i.output).isOk = true → plain.failure ≠ none)) ∨
    ran.1.failure = none ∧ ran.1.printed = "" ∧ plain.failure = none ∧
      disk.put path plain.printed = .ok ran.2 := by
  intro around path ran plain
  rcases Command.run_cases around named with
    ⟨failure, notices, fails, otherwise⟩ | ⟨notices, succeeds, plain_succeeds⟩
  · have ran_eq : ran = (⟨"", none, some failure, notices⟩, disk) := by
      rw [← fails]
      exact run_unwritten (by rw [fails])
    rw [ran_eq]
    exact .inl ⟨Option.some_ne_none failure, rfl, fun _ => otherwise⟩
  · cases taken : disk.put path plain.printed with
    | ok after =>
      have ran_eq : ran = _ := run_taken succeeds rfl taken
      rw [ran_eq]
      exact .inr ⟨rfl, rfl, plain_succeeds, rfl⟩
    | error fault =>
      have ran_eq : ran = _ := run_refused succeeds rfl taken
      rw [ran_eq]
      refine .inl ⟨Option.some_ne_none _, rfl, fun takes => ?_⟩
      obtain ⟨place, puts⟩ := put_of_takes takes
      rw [puts] at taken
      cases taken

end Disk

/-- With an output other than `-`, a run that fails leaves the disk as it was. One that succeeds,
where the disk takes the output at all, prints nothing, leaves in the output what the same run would
have printed without it, and leaves all else as it was; and it does succeed if that run does. -/
theorem output_whole_or_untouched (disk : Disk) (directory standardInput : String) (i : Invocation)
    (other : i.output ≠ standard) :
    let path := pathFrom directory i.output
    let ran := disk.run directory standardInput i
    let plain := (disk.run directory standardInput { i with output := standard }).1
    (ran.1.exitCode = 1 ∧ ran.2 = disk ∨
      ran.1.exitCode = 0 ∧ (disk.Takes path → ran.1.printed = "" ∧ plain.exitCode = 0 ∧
        ran.2.read path = .ok plain.printed ∧ ∃ place, ran.2 = disk.holding place plain.printed)) ∧
    (disk.Takes path → (openOutput (disk.around directory standardInput) i.output).isOk = true →
      plain.exitCode = 0 → ran.1.exitCode = 0) := by
  intro path ran plain
  have plain_eq : plain =
      Command.run (disk.around directory standardInput) { i with output := standard } :=
    congrArg Prod.fst (Disk.run_unwritten (written_of_standard isStandard_standard))
  cases stands : isStandard i.output with
  | true =>
    -- Nothing is put on the disk, and the disk would not take anything.
    have apart : ¬disk.Takes path := fun takes => by
      cases stands.symm.trans (named_of_takes other takes)
    have ran_eq : ran = _ := Disk.run_unwritten (written_of_standard stands)
    refine ⟨?_, fun takes => absurd takes apart⟩
    by_cases success : ran.1.failure = none
    · exact .inr ⟨Outcome.exitCode_of_success success, fun takes => absurd takes apart⟩
    · exact .inl ⟨Outcome.exitCode_of_failure success, by rw [ran_eq]⟩
  | false =>
    rw [plain_eq]
    rcases Disk.run_cases disk directory standardInput stands with
      ⟨failed, same, otherwise⟩ | ⟨success, nothing, plain_succeeds, taken⟩
    · refine ⟨.inl ⟨Outcome.exitCode_of_failure failed, same⟩, fun takes opens plain_zero => ?_⟩
      rw [Outcome.exitCode_of_failure (otherwise takes opens)] at plain_zero
      cases plain_zero
    · have zero : ran.1.exitCode = 0 := Outcome.exitCode_of_success success
      refine ⟨.inr ⟨zero, fun takes => ?_⟩, fun _ _ _ => zero⟩
      obtain ⟨place, puts⟩ := Disk.put_of_takes takes
      refine ⟨nothing, Outcome.exitCode_of_success plain_succeeds,
        Disk.read_put (pathFrom_ne_empty directory i.output) taken, place, ?_⟩
      exact (Except.ok.inj ((puts _).symm.trans taken)).symm

theorem output_whole_or_untouched_defined :
    let disk : Disk := ⟨[["d"]], [(["o", "d"], "old"), (["t", "d"], "{a}!")]⟩
    let i : Invocation := ⟨"t", none, ["a=1"], false, false, none, .default, true, "o"⟩
    i.output ≠ standard ∧ disk.Takes (pathFrom "/d" i.output) ∧
      (disk.run "/d" "" i).1.exitCode = 0 ∧ (disk.run "/d" "" i).1.printed = "" ∧
      (disk.run "/d" "" i).2.read (pathFrom "/d" i.output) = .ok "1!\n" := by
  intro disk i
  have other : i.output ≠ standard := by decide
  have takes : disk.Takes (pathFrom "/d" i.output) := ⟨"", by decide +kernel⟩
  obtain ⟨whole, -⟩ := output_whole_or_untouched disk "/d" "" i other
  have zero : (disk.run "/d" "" i).1.exitCode = 0 := by decide +kernel
  have plain : (disk.run "/d" "" { i with output := standard }).1.printed = "1!\n" := by
    decide +kernel
  obtain ⟨one, -⟩ | ⟨-, made⟩ := whole
  · rw [zero] at one
    cases one
  · obtain ⟨nothing, -, holds, -⟩ := made takes
    rw [plain] at holds
    exact ⟨other, takes, zero, nothing, holds⟩

end TitleTemplate.Command
