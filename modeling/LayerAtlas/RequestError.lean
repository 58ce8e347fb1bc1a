import LayerAtlas.Time.Error

namespace LayerAtlas

inductive RequestError where
  | missingParameter (name : String)
  | missingLayers
  | missingDimensionValue (name : String)
  | invalidParameter (name message : String)
  | layerStyleMismatch (layers styles : Nat)
  | layerNotFound (layer : String)
  | styleNotFound (layer style : String)
  | invalidCrs (layer crs : String)
  | invalidDimensionValue (message : String)
  | invalidBbox (message : String)
  | unsupportedFormat (format : String)
  | unsupportedVersion (version : String)
  | accessDenied (message : String)
  | internal (message : String)
  deriving DecidableEq, Repr

namespace RequestError

def message : RequestError → String
  | missingParameter name => "Missing required parameter: " ++ name
  | missingLayers => "Missing required parameter: LAYERS"
  | missingDimensionValue name => "Missing dimension value: " ++ name
  | invalidParameter name message =>
    "Invalid parameter value for '" ++ name ++ "': " ++ message
  | layerStyleMismatch layers styles =>
    "LAYERS and STYLES amount mismatch: " ++ toString layers ++ " layers, " ++
      toString styles ++ " styles"
  | layerNotFound layer => "Layer not found: " ++ layer
  | styleNotFound layer style =>
    "Style '" ++ style ++ "' is not defined for layer '" ++ layer ++ "'"
  | invalidCrs layer crs => "CRS '" ++ crs ++ "' is not supported by layer '" ++ layer ++ "'"
  | invalidDimensionValue message => "Invalid dimension value: " ++ message
  | invalidBbox message => "Invalid BBOX: " ++ message
  | unsupportedFormat format => "Requested format not supported: " ++ format
  | unsupportedVersion version => "Unsupported WMS version: " ++ version
  | accessDenied message => "Access denied: " ++ message
  | internal message => "Internal server error: " ++ message

def code : RequestError → String
  | missingLayers | layerNotFound _ => "LayerNotDefined"
  | styleNotFound _ _ => "StyleNotDefined"
  | invalidCrs _ _ => "InvalidCRS"
  | invalidDimensionValue _ | invalidBbox _ => "InvalidDimensionValue"
  | missingDimensionValue _ => "MissingDimensionValue"
  | unsupportedFormat _ => "InvalidFormat"
  | unsupportedVersion _ => "OperationNotSupported"
  | missingParameter _ | invalidParameter _ _ | layerStyleMismatch _ _ | accessDenied _
  | internal _ =>
    "NoApplicableCode"

def status : RequestError → Nat
  | layerNotFound _ | styleNotFound _ _ => 404
  | accessDenied _ => 403
  | internal _ => 500
  | _ => 400

/-- A time that cannot be used is an invalid value of the time dimension. -/
def ofTime (e : TimeError) : RequestError := invalidDimensionValue e.message

end RequestError

/-- How a request fails: it is refused, or the program stops over a question that it asks. -/
inductive Failure where
  | refused (e : RequestError)
  | stopped
  deriving DecidableEq, Repr

end LayerAtlas
