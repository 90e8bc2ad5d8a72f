import Mathlib.Data.Int.Notation

/-!
# The metrics counters

`metrics.c` keeps four counters of type `size_t`.
-/

namespace Socks5Proxy

/-- `struct metricSnapshot`. -/
structure MetricSnapshot where
  currentConnections : UInt64
  totalConnections : UInt64
  totalBytesSent : UInt64
  totalBytesReceived : UInt64
  deriving DecidableEq, Inhabited, Repr

def metricsInit : MetricSnapshot where
  currentConnections := 0
  totalConnections := 0
  totalBytesSent := 0
  totalBytesReceived := 0

def registerNewConnection (m : MetricSnapshot) : MetricSnapshot :=
  { m with
    currentConnections := m.currentConnections + 1
    totalConnections := m.totalConnections + 1 }

def registerConnectionClosed (m : MetricSnapshot) : MetricSnapshot :=
  if m.currentConnections > 0 then
    { m with currentConnections := m.currentConnections - 1 }
  else
    m

/-- The parameters stand in the order of `metrics.c`, which is not the order
of the prototype in `metrics.h`. -/
def registerBytesTransferred (m : MetricSnapshot) (bytesReceived bytesSent : ℤ) :
    MetricSnapshot :=
  { m with
    totalBytesReceived := m.totalBytesReceived + UInt64.ofInt bytesReceived
    totalBytesSent := m.totalBytesSent + UInt64.ofInt bytesSent }

end Socks5Proxy
