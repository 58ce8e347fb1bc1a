import LayerAtlas.Unicode.Table

namespace LayerAtlas.Unicode

/-- Runs of characters that count as one with others: the gap from the last run, the number of
characters, their distance, and twice the offset of the least character that counts as the same,
less one and negated below zero. -/
def foldText : List String :=
  [ "dTbABcLeXXBcLYHBcLJYCBbYDCBHICBRXCBbTBBjHCDCBFBBxBECCBFBBBEBBBGBBBHBBBIDCBHBBBFBBBDBBBECC",
    "BFBBBEBBBIBBBBBBDCBBBBBBDCBBBBBBDCICBPBBgBCJCBTBBBBBBDCBBBBBBhLBBBeHCUCBbNBBjZDJCBZBBBBBB",
    "mNFBBBBBBoZEFCBMBBqDBBBpVCCBpTDBBpNCBBpPFBBpTDBBpXFBBqBBBBqFGBBqFDBBqJDBBqLLBBqTDBBqTFBBq",
    "TBBBfHBCBqRCBBfLGBBqViPCCBGBBBbIBBgLDBBcfDQBBcXBDBcVEIBcLIBBiXBCBcLCBBchPBFBcLFBBcJBJBcLJ",
    "BBeXBCBeVDBBeTBBBeJEBBdPBBBeDBBBPCMCBXBBgPBBBgDCBBiXBBBhBBBBhJDBBBBBBNCBBBCDBjZbZbGBcLbGQ",
    "BgDRRCBbQbBCBcDHCBNBBbDCbWCBfObMBdRfnRGBPdgABBsnBBBBsmZBBBsmHBCBsmDCBBsmFBBBslRBBBshLDBBB",
    "GbRBixJbTDBixJmMcXCBfYBBeNDBBwnTDbWCBdZIBPQGBPQIBPQIBPQGBPRECPPIBPbGIBPQIBPQIBPQCBPCCBfRC",
    "BBRCBBvoRKEBgPEBBRHBBvkNFCBPCCBhRJBBvjHFCBPCCBiPCBBNMCBjVCCBjRCBBRlMBBwiREBByxHBBBynZbJBB",
    "cDbIQBbFUBBBbgMbABbZcuQbWBdRbXBBBBBBbfuJBBBlhJBBBbftDBBBbfyJBBBbfyDCDCBFBBbfxFBBBbfuVBBBb",
    "fxLBBBbfxJDBBBDBBBICBbfzXDbYCBeDCCBHBBBNbMBvmTbNBBvmTGBBvmTbtwEFCBJBBeaiTBBBeaiVCRCBcAOCB",
    "gGHCBQbFCBcTCCBDBBeanVCFCBNBBBBBBevcHECCBGKCBTBBeveLBBBevfHBBBeveZBBBeveFBBBeveLCBBevaPBB",
    "BevcLBBBevaVDICBPBBdRBBBeveJBBBearVCCCBDBBevhDCBBBEBBBGDCBFBBevxXbABBBbhDBBctJbDdCBekzNbe",
    "dQBBBbpRbABcLbwHbOBdBgUbKBdBhJLBcZMPBcZQHBcZICBcZcrDbZBeXgUWBcLehKbGBcLbglCbGBcLbumSbIB",
    "cP" ]

def foldRun (start count stride code : Nat) : List (Nat × Nat) :=
  (List.range count).map fun i =>
    let c := start + i * stride
    (c, if code % 2 = 0 then c + code / 2 else c - (code + 1) / 2)

def foldRuns (start : Nat) : List Nat → List (Nat × Nat)
  | gap :: count :: stride :: code :: rest =>
    foldRun (start + gap) count stride code ++ foldRuns (start + gap) rest
  | _ => []

def foldPairs : List (Nat × Nat) := foldRuns 0 (readNumbers 0 (String.join foldText).toList)

def unfoldPairs : List (Nat × Nat) :=
  (foldPairs.map fun p => (p.2, p.1)).mergeSort fun a b => a.1 ≤ b.1

def pairsIn : List (Nat × Nat) → List (Nat × Nat) → List (Nat × Nat)
  | [], _ | _, [] => []
  | r :: ranges, p :: pairs =>
    if r.2 < p.1 then pairsIn ranges (p :: pairs)
    else if p.1 < r.1 then pairsIn (r :: ranges) pairs
    else p :: pairsIn (r :: ranges) pairs
  termination_by ranges pairs => ranges.length + pairs.length

def image (pairs : List (Nat × Nat)) (set : CharSet) : CharSet :=
  .ofRanges ((pairsIn set.ranges pairs).map fun p => (p.2, p.2))

def hasCase (c : Nat) : Bool := foldPairs.any fun p => p.1 = c || p.2 = c

/-- A set with all characters that differ from one of its members by case alone. -/
def CharSet.fold (set : CharSet) : CharSet :=
  let least := set.union (image foldPairs set)
  least.union (image unfoldPairs least)

end LayerAtlas.Unicode
