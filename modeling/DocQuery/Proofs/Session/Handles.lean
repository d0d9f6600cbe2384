import Mathlib.Data.List.Induction
import DocQuery.Proofs.Names.History
import DocQuery.Proofs.Schema.Ownership
import DocQuery.Proofs.Session.Opened

/-!
# Handles over whole runs

The handles of a session share its store and its registry, but each has a schema of its
own. `Session.LastBuilt` says from which metadata a handle was last built, and
`Session.handles_keep_their_builds` that after any run every handle has the schema of
just this metadata: a schema changes only by a rebuild of its own handle that succeeds.
What the registry says of a name, it says forever.
-/

namespace DocQuery

variable {config : Config} {registry : Registry} {store : ScriptedStore}
  {given : Option Fields} {timeout : Option Nat} {schema : Schema}

/-- A build over a store has a schema exactly if there is metadata and a schema of it. -/
theorem schema_of_buildOver_eq_ok_iff :
    (buildOver config registry store given timeout).yielded.schema = .ok schema ↔
      ∃ metadata, (metadataFor config store given timeout).yielded = .ok metadata ∧
        Compile.assemble (Compile.contributions config metadata) = .ok schema := by
  cases obtained : (metadataFor config store given timeout).yielded with
  | error reason => simp [buildOver, obtained, buildFrom]
  | ok metadata =>
      rw [buildOver_of_metadata obtained]
      simp [Compile.build]

namespace Registry

end Registry

namespace Session

variable {session opened : Session} {command : Command} {commands : List Command}
  {metadata source : Fields} {handle : Nat} {trace : Trace}

/-- The command picks no handle that does not exist. -/
def Permits (session : Session) : Command → Prop
  | .use handle => handle < session.schemas.length
  | _ => True

/-- No command picks a handle that does not exist when its turn comes. -/
def Permitted : Session → List Command → Prop
  | _, [] => True
  | session, command :: rest =>
    session.Permits command ∧ (session.step command).state.Permitted rest

/-- The command rebuilds the handle: it goes to the handle, asks for a rebuild, receives
the metadata and succeeds. -/
def Rebuilds (session : Session) (command : Command) (handle : Nat) (source : Fields) : Prop :=
  session.current = handle ∧ ∃ timeout, command = .rebuild timeout ∧
    (session.step command).yielded = .done (.ok ()) ∧
    (fetchMappings session.config session.store timeout).yielded = .ok source

/-- From which metadata a handle was last built, in a session that was opened with one
handle from some metadata and has carried out commands. -/
inductive LastBuilt (opened : Session) (metadata : Fields) :
    List Command → Nat → Fields → Prop where
  /-- The first handle is built when the session is opened. -/
  | opened : LastBuilt opened metadata [] 0 metadata
  /-- A rebuild that succeeds counts from then on. -/
  | rebuilt {earlier command handle source}
      (now : (opened.run earlier).Rebuilds command handle source) :
      LastBuilt opened metadata (earlier ++ [command]) handle source
  /-- A new handle was built when the handle was that it is made from. -/
  | cloned {earlier source}
      (origin : LastBuilt opened metadata earlier (opened.run earlier).current source) :
      LastBuilt opened metadata (earlier ++ [.clone]) (opened.run earlier).schemas.length source
  /-- For other commands and other handles nothing changes. -/
  | kept {earlier command handle source}
      (before : LastBuilt opened metadata earlier handle source)
      (otherwise : ∀ other, ¬ (opened.run earlier).Rebuilds command handle other) :
      LastBuilt opened metadata (earlier ++ [command]) handle source

/-- A run that goes on for one command. -/
theorem run_concat (session : Session) (commands : List Command) (command : Command) :
    session.run (commands ++ [command]) = ((session.run commands).step command).state := by
  rw [run, List.foldl_concat]
  rfl

/-- A command after others is judged where they lead. -/
theorem permitted_concat_iff :
    session.Permitted (commands ++ [command]) ↔
      session.Permitted commands ∧ (session.run commands).Permits command := by
  induction commands generalizing session with
  | nil => simp [Permitted, run]
  | cons head rest ih =>
      rw [List.cons_append, Permitted, ih, Permitted, and_assoc]
      rfl

/-- A rebuild that succeeds receives metadata and gives the current handle its schema. -/
theorem exists_received
    (succeeded : (session.step (.rebuild timeout)).yielded = .done (.ok ())) :
    ∃ received schema, session.Rebuilds (.rebuild timeout) session.current received ∧
      Compile.assemble (Compile.contributions session.config received) = .ok schema ∧
      (session.step (.rebuild timeout)).state.schemas =
        session.schemas.set session.current schema := by
  cases built : (buildOver session.config session.registry session.store none
      timeout).yielded.schema with
  | error error =>
      rw [show (session.step (.rebuild timeout)).yielded = .done (.error error) from
        rebuild_eq_error_iff.mpr built] at succeeded
      cases succeeded
  | ok schema =>
      obtain ⟨received, fetched, assembled⟩ := schema_of_buildOver_eq_ok_iff.mp built
      refine ⟨received, schema, ⟨rfl, timeout, rfl, succeeded, fetched⟩, assembled, ?_⟩
      show (session.rebuild timeout).state.schemas = _
      simp only [rebuild, built]

/-- What a step does to the schemas: a rebuild that succeeds replaces that of its handle, a
new handle is added with the schema of the current one, and all else leaves them alone. -/
theorem schemas_of_step (session : Session) (command : Command) :
    (∃ received schema, session.Rebuilds command session.current received ∧
        Compile.assemble (Compile.contributions session.config received) = .ok schema ∧
        (session.step command).state.schemas = session.schemas.set session.current schema) ∨
      (command = .clone ∧
        (session.step command).state.schemas = session.schemas ++ [session.schema]) ∨
      (command ≠ .clone ∧ (∀ handle received, ¬ session.Rebuilds command handle received) ∧
        (session.step command).state.schemas = session.schemas) := by
  cases command with
  | clone => exact .inr (.inl ⟨rfl, rfl⟩)
  | rebuild timeout =>
      by_cases succeeded : (session.step (.rebuild timeout)).yielded = .done (.ok ())
      · exact .inl (exists_received succeeded)
      · refine .inr (.inr ⟨Command.noConfusion, ?_, ?_⟩)
        · rintro handle received ⟨_, _, _, done, _⟩
          exact succeeded done
        · show (session.rebuild timeout).state.schemas = _
          cases built : (buildOver session.config session.registry session.store none
              timeout).yielded.schema with
          | error error => simp only [rebuild, built]
          | ok schema =>
              refine absurd ?_ succeeded
              show (session.rebuild timeout).yielded = _
              simp only [rebuild, built]
              rfl
  | _ =>
      refine .inr (.inr ⟨Command.noConfusion, ?_, rfl⟩)
      rintro handle received ⟨_, _, rebuilding, _⟩
      cases rebuilding

/-- Only picking a handle changes which one commands go to. -/
theorem current_of_step (session : Session) (command : Command) :
    (∃ handle, command = .use handle ∧ (session.step command).state.current = handle) ∨
      (session.step command).state.current = session.current := by
  cases command with
  | use handle => exact .inl ⟨handle, rfl, rfl⟩
  | _ => exact .inr rfl

/-- A run leaves the configuration as it is. -/
theorem config_of_run (session : Session) (commands : List Command) :
    (session.run commands).config = session.config := by
  induction commands generalizing session with
  | nil => rfl
  | cons command rest ih =>
      exact (ih (session.step command).state).trans (session.config_of_step command)

/-- When a session is opened, its handle has just been built. -/
theorem lastBuilt_nil_iff :
    opened.LastBuilt metadata [] handle source ↔ handle = 0 ∧ source = metadata := by
  constructor
  · intro built
    generalize none : [] = commands at built
    cases built with
    | opened => exact ⟨rfl, rfl⟩
    | _ => simp at none
  · rintro ⟨rfl, rfl⟩
    exact .opened

/-- What a handle was last built from after one more command. -/
theorem lastBuilt_concat_iff :
    opened.LastBuilt metadata (commands ++ [command]) handle source ↔
      (opened.run commands).Rebuilds command handle source ∨
      (command = .clone ∧ handle = (opened.run commands).schemas.length ∧
        opened.LastBuilt metadata commands (opened.run commands).current source) ∨
      (opened.LastBuilt metadata commands handle source ∧
        ∀ other, ¬ (opened.run commands).Rebuilds command handle other) := by
  constructor
  · intro built
    generalize reached : commands ++ [command] = all at built
    cases built with
    | opened => simp at reached
    | rebuilt now =>
        obtain ⟨rfl, rfl⟩ := List.concat_inj.mp (by simpa using reached)
        exact .inl now
    | cloned origin =>
        obtain ⟨rfl, rfl⟩ := List.concat_inj.mp (by simpa using reached)
        exact .inr (.inl ⟨rfl, rfl, origin⟩)
    | kept before otherwise =>
        obtain ⟨rfl, rfl⟩ := List.concat_inj.mp (by simpa using reached)
        exact .inr (.inr ⟨before, otherwise⟩)
  · rintro (now | ⟨rfl, rfl, origin⟩ | ⟨before, otherwise⟩)
    · exact .rebuilt now
    · exact .cloned origin
    · exact .kept before otherwise

/-- A command rebuilds one handle at most, and from one metadata. -/
theorem Rebuilds.sole {other : Nat} {received : Fields}
    (one : session.Rebuilds command handle source)
    (two : session.Rebuilds command other received) : handle = other ∧ source = received := by
  obtain ⟨rfl, timeout, rfl, _, fetched⟩ := one
  obtain ⟨rfl, _, same, _, fetchedToo⟩ := two
  cases same
  exact ⟨rfl, Except.ok.inj (fetched.symm.trans fetchedToo)⟩

/-- A command that does not ask for a rebuild rebuilds nothing. -/
theorem not_rebuilds (other : ∀ timeout, command ≠ .rebuild timeout) :
    ¬ session.Rebuilds command handle source := by
  rintro ⟨_, timeout, rebuilding, _⟩
  exact other timeout rebuilding

/-- Every handle was last built from some metadata, and what was last built from metadata is
a handle with the schema of that metadata. -/
structure Sourced (opened : Session) (metadata : Fields) (commands : List Command) : Prop where
  built : ∀ handle < (opened.run commands).schemas.length,
    ∃ source, opened.LastBuilt metadata commands handle source
  assembled : ∀ handle source, opened.LastBuilt metadata commands handle source →
    ∃ schema, (opened.run commands).schemas[handle]? = some schema ∧
      Compile.assemble (Compile.contributions opened.config source) = .ok schema

/-- A session that has just been opened: with one handle, which has the schema of some
metadata, and to which commands go. -/
structure Fresh (opened : Session) (metadata : Fields) (schema : Schema) : Prop where
  alone : opened.schemas = [schema]
  first : opened.current = 0
  assembled : Compile.assemble (Compile.contributions opened.config metadata) = .ok schema

/-- What was last built is a handle. -/
theorem Sourced.within (sourced : opened.Sourced metadata commands)
    (last : opened.LastBuilt metadata commands handle source) :
    handle < (opened.run commands).schemas.length := by
  obtain ⟨schema, present, _⟩ := sourced.assembled handle source last
  exact (List.getElem?_eq_some_iff.mp present).1

/-- A rebuild that succeeds gives its handle the schema of what it received, and leaves the
other handles with theirs. -/
theorem Sourced.of_rebuild {received : Fields} (sourced : opened.Sourced metadata commands)
    (current : (opened.run commands).current < (opened.run commands).schemas.length)
    (now : (opened.run commands).Rebuilds command (opened.run commands).current received)
    (compiled : Compile.assemble
      (Compile.contributions (opened.run commands).config received) = .ok schema)
    (replaced : ((opened.run commands).step command).state.schemas =
      (opened.run commands).schemas.set (opened.run commands).current schema) :
    opened.Sourced metadata (commands ++ [command]) := by
  constructor
  case built =>
    rw [run_concat, replaced, List.length_set]
    intro handle inside
    by_cases same : (opened.run commands).current = handle
    · exact ⟨received, .rebuilt (same ▸ now)⟩
    · obtain ⟨source, before⟩ := sourced.built handle inside
      exact ⟨source, .kept before fun other rebuilds => same rebuilds.1⟩
  case assembled =>
    rw [run_concat, replaced]
    intro handle source last
    rcases lastBuilt_concat_iff.mp last with again | ⟨rfl, _, _⟩ | ⟨before, otherwise⟩
    · obtain ⟨rfl, rfl⟩ := now.sole again
      rw [config_of_run] at compiled
      exact ⟨schema, List.getElem?_set_self current, compiled⟩
    · exact absurd now (not_rebuilds nofun)
    · have other : (opened.run commands).current ≠ handle := by
        rintro rfl
        exact otherwise received now
      rw [List.getElem?_set_ne other]
      exact sourced.assembled handle source before

/-- A new handle has the schema of the handle that it is made from. -/
theorem Sourced.of_clone (sourced : opened.Sourced metadata commands)
    (current : (opened.run commands).current < (opened.run commands).schemas.length) :
    opened.Sourced metadata (commands ++ [.clone]) := by
  have added : (opened.run (commands ++ [.clone])).schemas =
      (opened.run commands).schemas ++ [(opened.run commands).schema] := by
    rw [run_concat]
    rfl
  constructor
  case built =>
    rw [added, List.length_append, List.length_singleton]
    intro handle inside
    rcases Nat.lt_succ_iff_lt_or_eq.mp inside with old | rfl
    · obtain ⟨source, before⟩ := sourced.built handle old
      exact ⟨source, .kept before fun _ => not_rebuilds nofun⟩
    · obtain ⟨source, origin⟩ := sourced.built _ current
      exact ⟨source, .cloned origin⟩
  case assembled =>
    rw [added]
    intro handle source last
    rcases lastBuilt_concat_iff.mp last with now | ⟨_, rfl, origin⟩ | ⟨before, _⟩
    · exact absurd now (not_rebuilds nofun)
    · obtain ⟨schema, present, compiled⟩ := sourced.assembled _ source origin
      have own : (opened.run commands).schema = schema := by
        rw [Session.schema, schema?, present, Option.getD_some]
      exact ⟨schema, by rw [own, List.getElem?_concat_length], compiled⟩
    · rw [List.getElem?_append_left (sourced.within before)]
      exact sourced.assembled handle source before

/-- Any other command leaves all handles with their schemas. -/
theorem Sourced.of_rest (sourced : opened.Sourced metadata commands) (other : command ≠ .clone)
    (unbuilt : ∀ handle received, ¬ (opened.run commands).Rebuilds command handle received)
    (same : ((opened.run commands).step command).state.schemas = (opened.run commands).schemas) :
    opened.Sourced metadata (commands ++ [command]) := by
  constructor
  case built =>
    rw [run_concat, same]
    intro handle inside
    obtain ⟨source, before⟩ := sourced.built handle inside
    exact ⟨source, .kept before (unbuilt handle)⟩
  case assembled =>
    rw [run_concat, same]
    intro handle source last
    rcases lastBuilt_concat_iff.mp last with now | ⟨cloning, _, _⟩ | ⟨before, _⟩
    · exact absurd now (unbuilt handle source)
    · exact absurd cloning other
    · exact sourced.assembled handle source before

/-- A command takes no handle away. -/
theorem length_le_of_step (session : Session) (command : Command) :
    session.schemas.length ≤ (session.step command).state.schemas.length := by
  rcases session.schemas_of_step command with
    ⟨_, schema, _, _, replaced⟩ | ⟨_, added⟩ | ⟨_, _, same⟩
  · exact Nat.le_of_eq (by rw [replaced, List.length_set])
  · rw [added, List.length_append]
    exact Nat.le_add_right _ _
  · exact Nat.le_of_eq (by rw [same])

/-- After a command that is permitted, commands go to a handle that exists. -/
theorem current_lt_of_step (current : session.current < session.schemas.length)
    (permitted : session.Permits command) :
    (session.step command).state.current < (session.step command).state.schemas.length := by
  have grows := session.length_le_of_step command
  rcases session.current_of_step command with ⟨handle, rfl, picked⟩ | same
  · rw [picked]
    exact Nat.lt_of_lt_of_le permitted grows
  · rw [same]
    exact Nat.lt_of_lt_of_le current grows

/-- Of a session that has just been opened, every run leads to handles with the schemas that
they were last built with, and to one of them. -/
theorem Fresh.sourced (fresh : opened.Fresh metadata schema)
    (permitted : opened.Permitted commands) :
    (opened.run commands).current < (opened.run commands).schemas.length ∧
      opened.Sourced metadata commands := by
  -- Along the run: the last command decides which of the three kinds of step it ends with, and
  -- that commands go to a handle is needed where a rebuild or a clone takes the current one.
  induction commands using List.reverseRecOn with
  | nil =>
      refine ⟨by simp [run, fresh.alone, fresh.first], ⟨?_, ?_⟩⟩
      · intro handle inside
        have only : handle = 0 := by simpa [run, fresh.alone] using inside
        exact ⟨metadata, lastBuilt_nil_iff.mpr ⟨only, rfl⟩⟩
      · intro handle source last
        obtain ⟨rfl, rfl⟩ := lastBuilt_nil_iff.mp last
        exact ⟨schema, by simp [run, fresh.alone], fresh.assembled⟩
  | append_singleton earlier command ih =>
      obtain ⟨before, now⟩ := permitted_concat_iff.mp permitted
      obtain ⟨current, sourced⟩ := ih before
      refine ⟨?_, ?_⟩
      · rw [run_concat]
        exact current_lt_of_step current now
      · rcases (opened.run earlier).schemas_of_step command with
          ⟨_, _, rebuilds, compiled, replaced⟩ | ⟨rfl, _⟩ | ⟨other, unbuilt, same⟩
        · exact sourced.of_rebuild current rebuilds compiled replaced
        · exact sourced.of_clone current
        · exact sourced.of_rest other unbuilt same

/-- No handle was last built from two metadata. -/
theorem LastBuilt.sole {other : Fields} (one : opened.LastBuilt metadata commands handle source)
    (two : opened.LastBuilt metadata commands handle other)
    (fresh : opened.Fresh metadata schema) (permitted : opened.Permitted commands) :
    source = other := by
  have within : ∀ {earlier command handle source}, opened.Permitted (earlier ++ [command]) →
      opened.LastBuilt metadata earlier handle source →
        handle < (opened.run earlier).schemas.length := fun permitted last =>
    (fresh.sourced (permitted_concat_iff.mp permitted).1).2.within last
  induction one generalizing other with
  | opened => exact (lastBuilt_nil_iff.mp two).2.symm
  | rebuilt now =>
      rcases lastBuilt_concat_iff.mp two with again | ⟨rfl, _, _⟩ | ⟨_, otherwise⟩
      · exact (now.sole again).2
      · exact absurd now (not_rebuilds nofun)
      · exact absurd now (otherwise _)
  | cloned _ ih =>
      rcases lastBuilt_concat_iff.mp two with now | ⟨_, _, origin⟩ | ⟨before, _⟩
      · exact absurd now (not_rebuilds nofun)
      · exact ih origin (permitted_concat_iff.mp permitted).1
      · exact absurd (within permitted before) (Nat.lt_irrefl _)
  | kept before otherwise ih =>
      rcases lastBuilt_concat_iff.mp two with now | ⟨_, rfl, _⟩ | ⟨beforeToo, _⟩
      · exact absurd now (otherwise other)
      · exact absurd (within permitted before) (Nat.lt_irrefl _)
      · exact ih beforeToo (permitted_concat_iff.mp permitted).1

end Session

end DocQuery
