import LoraNetworking.Lib.Prog
import LoraNetworking.Lib.Transducer
import LoraNetworking.Lib.Binary32
import LoraNetworking.Lib.StopAndWait
import LoraNetworking.Lib.Quantizer
import LoraNetworking.Lib.Heap
import LoraNetworking.Lib.Lockstep
import LoraNetworking.Packet
import LoraNetworking.RxPacketHandler
import LoraNetworking.CaptureSession
import LoraNetworking.DuplicateFilter
import LoraNetworking.CommandInterleaving
import LoraNetworking.SpiPort
import LoraNetworking.Sx127xConfig
import LoraNetworking.Sx127xDriver
import LoraNetworking.Sx127xUtils
import LoraNetworking.Sx127xRxUtils
import LoraNetworking.NetworkDataOperations
import LoraNetworking.BurstCapacity
import LoraNetworking.ShadowState
import LoraNetworking.FrameParser
import LoraNetworking.PayloadTrust
import LoraNetworking.WorkingRadio
import LoraNetworking.Receiver
import LoraNetworking.LossyChannel
import LoraNetworking.LinkProgress
import LoraNetworking.BurstReception
import LoraNetworking.BurstDelivery
import LoraNetworking.AbortedBurst
import LoraNetworking.SharedAir
import LoraNetworking.WireFormat
import LoraNetworking.Reassembly
import LoraNetworking.CommandRouting
import LoraNetworking.Retransmissions
import LoraNetworking.BurstOrder
import LoraNetworking.AckTraffic
import LoraNetworking.BusTrace
import LoraNetworking.IrqPolling
import LoraNetworking.ConfigFailures
import LoraNetworking.Chip
import LoraNetworking.PayloadAtomicity
import LoraNetworking.SendCompletion
import LoraNetworking.ChannelPlan
import LoraNetworking.RejectedArguments
import LoraNetworking.RxBufferReset
import LoraNetworking.RssiScan
import LoraNetworking.PacketMemory
import LoraNetworking.RadioMemory
import LoraNetworking.BurstExample
import LoraNetworking.SenderMemory
import LoraNetworking.HandlerMemory
import LoraNetworking.ReceiveMemory
import LoraNetworking.Transceiver
import LoraNetworking.AirDriver
import LoraNetworking.ReceiveOnAir
import LoraNetworking.SendOnAir
import LoraNetworking.BurstOnAir
import LoraNetworking.Agreement
import LoraNetworking.EspSpi
import LoraNetworking.EspBus
import LoraNetworking.EspRegisters
import LoraNetworking.BurstExampleOnAir
import LoraNetworking.PingPong
import LoraNetworking.PingPongOnAir
