import TileScript.Object.Model

namespace TileScript

/-- The largest count kept; counting further leaves it there. -/
def counterLimit : Nat := 4294967295

def countUp (count : Nat) : Nat := min (count + 1) counterLimit

structure Clock where
  interval : Nat
  repeats : Bool
  elapsed : Nat
  parameters : List Value

namespace Clock

/-- A clock for a time event: the first parameter is the interval, the second says whether it
repeats. -/
def ofParameters (parameters : List Value) : Clock where
  interval := ((parameters.head?.bind Value.number?).map ticksOf).getD 0
  repeats := (parameters[1]?.bind Value.bool?).getD false
  elapsed := 0
  parameters := parameters

def isDue (clock : Clock) : Bool := clock.interval ≤ clock.elapsed

def advance (clock : Clock) : Clock := { clock with elapsed := countUp clock.elapsed }

def due (clocks : List Clock) : List (Nat × List Value) :=
  (clocks.zipIdx.filter (·.1.isDue)).map (fun entry => (entry.2, entry.1.parameters))

def fire (clocks : List Clock) (index : Nat) : List Clock :=
  match clocks[index]? with
  | none => clocks
  | some clock =>
    if clock.repeats then clocks.set index { clock with elapsed := 0 } else clocks.eraseIdx index

/-- The clocks at some positions have raised their events. The highest position comes first, so
that a clock that goes does not renumber those still to come. -/
def fireAll (clocks : List Clock) (indices : List Nat) : List Clock :=
  (IdMap.ofList (indices.map (fun index => (index, ())))).ids.reverse.foldl fire clocks

end Clock

/-- One clock per handler of the time event; an open filter stands for zero. -/
def ObjectModel.clocks (model : ObjectModel) : List Clock :=
  (model.handlers.filter (fun handler => handler.system && handler.event == timeEvent)).map
    (fun handler => Clock.ofParameters (handler.filters.map (·.getD default)))

end TileScript
