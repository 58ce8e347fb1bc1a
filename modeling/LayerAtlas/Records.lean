import LayerAtlas.Layer
import LayerAtlas.Reading

namespace LayerAtlas

open Document

variable {ν : Type} [Document ν]

def BoundingBox.ofNode? (node : ν) : Option BoundingBox := do
  let record ← Record.ofNode? 4 node
  let minX ← (← record.slot 0 ["min_x"]).required asFloat
  let minY ← (← record.slot 1 ["min_y"]).required asFloat
  let maxX ← (← record.slot 2 ["max_x"]).required asFloat
  let maxY ← (← record.slot 3 ["max_y"]).required asFloat
  return { minX, minY, maxX, maxY }

def Reference.ofNode? (node : ν) : Option Reference := do
  let record ← Record.ofNode? 4 node
  let id ← (← record.slot 0 ["id"]).required asText
  let geographic ← (← record.slot 1 ["geographic"]).orElse false asBool
  let bbox ← (← record.slot 2 ["bbox"]).orElse .world BoundingBox.ofNode?
  let enabled ← (← record.slot 3 ["enabled"]).orElse true asBool
  return { id, geographic, bbox, enabled }

def IntervalPair.ofNode? (node : ν) : Option IntervalPair := do
  let record ← Record.ofNode? 3 node
  let start ← (← record.slot 0 ["start"]).required asInt32
  let stop ← (← record.slot 1 ["end"]).required asInt32
  let isDefault ← (← record.slot 2 ["default"]).orElse false asBool
  return { start, stop, isDefault }

def LevelType.ofNode? (node : ν) : Option LevelType := (asChoice node).map ofName

def LegendUrl.ofNode? (node : ν) : Option LegendUrl := do
  let record ← Record.ofNode? 4 node
  let format ← (← record.slot 0 ["format"]).orElse "image/png" asText
  let width ← (← record.slot 1 ["width"]).orElse none (asOption asNat32)
  let height ← (← record.slot 2 ["height"]).orElse none (asOption asNat32)
  let onlineResource ← (← record.slot 3 ["online_resource"]).orElse none (asOption asText)
  return { format, width, height, onlineResource }

def Style.ofNode? (node : ν) : Option Style := do
  let record ← Record.ofNode? 4 node
  let name ← (← record.slot 0 ["name"]).required asText
  let title ← (← record.slot 1 ["title"]).orElse none (asOption asText)
  let summary ← (← record.slot 2 ["abstract"]).orElse none (asOption asText)
  let legendUrl ← (← record.slot 3 ["legend_url"]).orElse none (asOption LegendUrl.ofNode?)
  return { name, title, summary, legendUrl }

end LayerAtlas
