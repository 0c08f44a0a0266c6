import RelayBench.Fault.Basic

/-! Writing all of a byte string through a sink whose single writes may take less than they are
given: what is left is offered again until nothing is left or a write fails. -/
namespace RelayBench

/-- The course of a transfer: its result, the sink afterwards, how many writes it made and how many
bytes they took. -/
structure Transfer (σ : Type) where
  result : Except Fault Unit
  sink : σ
  calls : Nat
  sent : Nat

namespace Transfer

variable {σ : Type}

/-- The rest of a transfer.  A write that gets on takes at least one byte, so the number of bytes
bounds the number of writes. -/
def pump (write : σ → Bytes → Except Fault Nat × σ) :
    (limit : Nat) → σ → Bytes → (calls sent : Nat) → Transfer σ
  | 0, sink, _, calls, sent => { result := .ok (), sink, calls, sent }
  | _ + 1, sink, [], calls, sent => { result := .ok (), sink, calls, sent }
  | limit + 1, sink, data, calls, sent =>
    match write sink data with
    | (.ok count, sink) => pump write limit sink (data.drop count) (calls + 1) (sent + count)
    | (.error fault, sink) => { result := .error fault, sink, calls := calls + 1, sent }

/-- Whether an operating system fault cut the transfer off after some of its bytes had gone out. -/
def isCutOff (transfer : Transfer σ) : Bool :=
  match transfer.result with
  | .ok () => false
  | .error fault => fault.isOs && 0 < transfer.sent

def run (write : σ → Bytes → Except Fault Nat × σ) (sink : σ) (data : Bytes) : Transfer σ :=
  pump write data.length sink data 0 0

end Transfer

/-- A sink, and whether a transfer to it was cut off. -/
structure Outlet (σ : Type) where
  sink : σ
  broken : Bool := false

/-- Writes all bytes or raises a fault; a transfer that is cut off breaks the outlet. -/
def Outlet.send {σ : Type} (write : σ → Bytes → Except Fault Nat × σ) (outlet : Outlet σ)
    (data : Bytes) : Except Fault Unit × Outlet σ :=
  let transfer := Transfer.run write outlet.sink data
  (transfer.result, { sink := transfer.sink, broken := outlet.broken || transfer.isCutOff })

end RelayBench
