import TrackSieve.Filter.Basic

/-!
# Scans of many records

The accepted records of a list, in order. A list may be cut into pieces that are scanned apart and
joined again in order; a piece that cannot be judged makes the whole scan fail.
-/

namespace TrackSieve

/-- A list of records, cut into pieces. The records of a piece are scanned one after the other, the
two parts of a join independently. -/
inductive Split (ρ : Type) where
  | piece (records : List ρ)
  | join (front back : Split ρ)

/-- The records of all pieces, in order. -/
def Split.records {ρ : Type} : Split ρ → List ρ
  | .piece records => records
  | .join front back => front.records ++ back.records

namespace RangeFilter

variable {ρ : Type}

/-- The accepted records of a list, in order. -/
def accepted (f : RangeFilter ρ) : List ρ → Except Fault (List ρ)
  | [] => .ok []
  | record :: records =>
    match f.judge record, f.accepted records with
    | .ok keep, .ok rest => .ok (if keep then record :: rest else rest)
    | .error fault, _ => .error fault
    | _, .error fault => .error fault

/-- The accepted records of all pieces, in order, each piece being scanned apart. -/
def acceptedOf (f : RangeFilter ρ) : Split ρ → Except Fault (List ρ)
  | .piece records => f.accepted records
  | .join front back =>
    match f.acceptedOf front, f.acceptedOf back with
    | .ok xs, .ok ys => .ok (xs ++ ys)
    | .error fault, _ => .error fault
    | _, .error fault => .error fault

/-- The positions of the accepted records of a list, from zero. -/
def acceptedPositions (f : RangeFilter ρ) (records : List ρ) : Except Fault (List Nat) :=
  ((f.through Prod.fst).accepted records.zipIdx).map (·.map Prod.snd)

end RangeFilter

end TrackSieve
