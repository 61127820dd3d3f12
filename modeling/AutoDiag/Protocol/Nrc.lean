import AutoDiag.Python.Builtins

/-!
# Negative response codes

The table of `protocol/nrc.py`: the codes of ISO 14229-1 and the block-transfer
codes of older ECUs. Both clients name the code of a refusal from it.
-/

namespace AutoDiag.Nrc

/-- The ECU received the request and will answer later. -/
def responsePending : UInt8 := 0x78

/-- `NRC`. -/
def table : List (UInt8 × String) :=
  [
    (0x00, "positiveResponse"),
    (0x10, "generalReject"),
    (0x11, "serviceNotSupported"),
    (0x12, "subFunctionNotSupported"),
    (0x13, "incorrectMessageLengthOrInvalidFormat"),
    (0x14, "responseTooLong"),
    (0x21, "busyRepeatRequest"),
    (0x22, "conditionsNotCorrect"),
    (0x24, "requestSequenceError"),
    (0x25, "noResponseFromSubnetComponent"),
    (0x26, "failurePreventsExecutionOfRequestedAction"),
    (0x31, "requestOutOfRange"),
    (0x33, "securityAccessDenied"),
    (0x34, "authenticationRequired"),
    (0x35, "invalidKey"),
    (0x36, "exceededNumberOfAttempts"),
    (0x37, "requiredTimeDelayNotExpired"),
    (0x38, "secureDataTransmissionRequired"),
    (0x39, "secureDataTransmissionNotAllowed"),
    (0x3A, "secureDataVerificationFailed"),
    (0x50, "certificateVerificationFailed-InvalidTimePeriod"),
    (0x51, "certificateVerificationFailed-InvalidSignature"),
    (0x52, "certificateVerificationFailed-InvalidChainOfTrust"),
    (0x53, "certificateVerificationFailed-InvalidType"),
    (0x54, "certificateVerificationFailed-InvalidFormat"),
    (0x55, "certificateVerificationFailed-InvalidContent"),
    (0x56, "certificateVerificationFailed-InvalidScope"),
    (0x57, "certificateVerificationFailed-InvalidCertificate"),
    (0x58, "ownershipVerificationFailed"),
    (0x59, "challengeCalculationFailed"),
    (0x5A, "settingAccessRightsFailed"),
    (0x5B, "sessionKeyCreationOrDerivationFailed"),
    (0x5C, "configurationDataUsageFailed"),
    (0x5D, "deAuthenticationFailed"),
    (0x70, "uploadDownloadNotAccepted"),
    (0x71, "transferDataSuspended"),
    (0x72, "generalProgrammingFailure"),
    (0x73, "wrongBlockSequenceCounter"),
    (0x74, "illegalByteCountInBlockTransfer"),
    (0x75, "illegalByteCountInBlockTransfer"),
    (0x76, "reservedByLegacyBlockTransfer"),
    (0x77, "reservedByLegacyBlockTransfer"),
    (0x78, "requestCorrectlyReceived-ResponsePending"),
    (0x79, "incorrectByteCountDuringBlockTransfer"),
    (0x7E, "subFunctionNotSupportedInActiveSession"),
    (0x7F, "serviceNotSupportedInActiveSession"),
    (0x81, "rpmTooHigh"),
    (0x82, "rpmTooLow"),
    (0x83, "engineIsRunning"),
    (0x84, "engineIsNotRunning"),
    (0x85, "engineRunTimeTooLow"),
    (0x86, "temperatureTooHigh"),
    (0x87, "temperatureTooLow"),
    (0x88, "vehicleSpeedTooHigh"),
    (0x89, "vehicleSpeedTooLow"),
    (0x8A, "throttle/PedalTooHigh"),
    (0x8B, "throttle/PedalTooLow"),
    (0x8C, "transmissionRangeNotInNeutral"),
    (0x8D, "transmissionRangeNotInGear"),
    (0x8F, "brakeSwitch(es)NotClosed"),
    (0x90, "shifterLeverNotInPark"),
    (0x91, "torqueConverterClutchLocked"),
    (0x92, "voltageTooHigh"),
    (0x93, "voltageTooLow"),
    (0x94, "resourceTemporarilyNotAvailable")
  ]

/-- `NRC.get(nrc, "unknown")`. -/
def name (nrc : UInt8) : String := (table.lookup nrc).getD "unknown"

end AutoDiag.Nrc
