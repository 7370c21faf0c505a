import TimingScript.Proofs.Lockstep

/-! # Sessions — one assembly compiles many texts

    A compilation starts by forgetting what there was.  It also leaves
    nothing behind: an error is followed by a reset, and a program is taken
    out of the assembly field by field.  The open loops are not among these
    fields, but a text that leaves one open is no program, so there are none
    (`assembly_compile`).

    Therefore requests do not see each other.  Each is answered as by a
    fresh assembly and leaves a fresh one, whatever the first one held. -/

namespace TimingScript

open Source (LineNumber)

/-- What an assembly is asked to do. -/
inductive Request where
  | compile (text : String)
  | reset
deriving DecidableEq, Repr

namespace Request

/-- The answer of a fresh assembly.  There is nothing to say to a reset. -/
def answer (clock : Clock) : Request → Except CompileError (Option Program)
  | .compile text => (TimingScript.compile clock text).map some
  | .reset => .ok none

/-- What a fresh assembly logs. -/
def log (clock : Clock) : Request → Array Event
  | .compile text => ((Assembly.fresh clock).compile text).log
  | .reset => #[]

end Request

namespace Assembly

/-! ## What a compilation leaves behind -/

/-- A run over lines keeps the clock, also where it stops. -/
theorem clock_compileLines (assembly : Assembly) (log : Array Event)
    (lines : List (LineNumber × String)) :
    (assembly.compileLines log lines).assembly.clock = assembly.clock := by
  induction lines generalizing assembly log with
  | nil => rfl
  | cons numbered rest ih =>
      obtain ⟨line, source⟩ := numbered
      have hline : (assembly.compileLine line source).assembly.clock
          = assembly.clock := by
        obtain ⟨y, loops, hy⟩ := exists_extend_compileLine assembly line source
        rw [hy, extend_clock]
      cases he : (assembly.compileLine line source).error with
      | none =>
          rw [compileLines_cons_of_ok (Prod.ext rfl he), ih]
          exact hline
      | some error =>
          rw [compileLines_cons_of_error (Prod.ext rfl he)]
          exact hline

/-- Where the last check succeeds no loop is open. -/
theorem loops_of_finish {report : Report Unit}
    (h : (finish report).result = .ok ()) :
    (finish report).assembly.loops = .empty := by
  rw [assembly_finish]
  rw [finish] at h
  split at h
  · cases h
  · rename_i hopen
    -- the report was not touched, so it was the stack that let it pass
    cases hlines : report.assembly.loops.lines with
    | nil =>
        show LoopStack.mk report.assembly.loops.lines = _
        rw [hlines]
        rfl
    | cons line rest =>
        refine absurd ?_ (hopen line h)
        rw [LoopStack.innermost?, hlines]
        rfl

/-- An assembly without open loops is fresh once its program is taken
    out. -/
theorem emptied_eq_fresh {assembly : Assembly}
    (h : assembly.loops = .empty) :
    assembly.emptied = fresh assembly.clock := by
  rw [emptied, h]
  rfl

/-- Every compilation leaves a fresh assembly. -/
theorem assembly_compile (assembly : Assembly) (text : String) :
    (assembly.compile text).assembly = fresh assembly.clock := by
  have hclock : (finish (assembly.reset.compileLines #[]
      (Source.numberedLines text))).assembly.clock = assembly.clock := by
    rw [assembly_finish, clock_compileLines]
    rfl
  rw [compile]
  split
  · rename_i hresult
    rw [← hclock]
    exact emptied_eq_fresh (loops_of_finish hresult)
  · rw [← hclock]
    rfl

/-! ## Requests in turn -/

/-- Does what is asked for. -/
def serve (assembly : Assembly) : Request → Report (Option Program)
  | .compile text =>
      let report := assembly.compile text
      ⟨report.assembly, report.log, report.result.map some⟩
  | .reset => ⟨assembly.reset, #[], .ok none⟩

/-- Serves requests in turn, each with the assembly that the one before it
    left. -/
def session (assembly : Assembly) :
    List Request → List (Report (Option Program))
  | [] => []
  | request :: rest =>
      let report := assembly.serve request
      report :: report.assembly.session rest

/-- A request is served as by a fresh assembly, and leaves one. -/
theorem serve_eq (assembly : Assembly) (request : Request) :
    assembly.serve request
      = ⟨fresh assembly.clock, request.log assembly.clock,
          request.answer assembly.clock⟩ := by
  cases request with
  | compile text =>
      rw [serve, assembly_compile]
      -- both begin with the same reset
      rfl
  | reset => rfl

/-- **Requests do not see each other.**  In every session, whatever the
    assembly held at first, a text is compiled as if it stood alone, and
    behind every request the assembly is fresh. -/
theorem session_eq (assembly : Assembly) (requests : List Request) :
    assembly.session requests
      = requests.map fun request =>
          ⟨fresh assembly.clock, request.log assembly.clock,
            request.answer assembly.clock⟩ := by
  induction requests generalizing assembly with
  | nil => rfl
  | cons request rest ih =>
      rw [session, List.map_cons, serve_eq, ih]
      rfl

end Assembly

end TimingScript
