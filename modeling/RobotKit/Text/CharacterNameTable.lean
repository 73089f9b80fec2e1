/-!
# Data of the names of characters

All names but those of ideographs and of Hangul syllables.
-/

namespace RobotKit.Text

def packedNames : String :=
  "l$UA.%N.dN]*_qmXws.b+qymQ[RR,Y,S-w(4VJ)U4P?5q6%'KX_@_0aB(NuS>c<lfzW@]D[TioK534[BI-Yb1DD.Kn>]bpMz'X2J
!(d8xVzr:p.hE8G1C!x/@:?3:TI[f-<pPs&E1$A6GF$J1&7VZ@=TA=^?zsnDp(!NEkx6_'*?|tvf'X+PoXMyzBePE_Yz_+fO'^cF
t^l=O^9z8>1$hb?c>L]lBo,6'usbGW%51*BAeQFvh8t^azkg2?@-2em1^uB/F<M>fv1mT?=|c:W9jXF!OPFrWt~A+uTdo[<=4kdt
wZZmJ!C3v5ZRpa;LqT2DL?:0yX@|uSvg$02G3K@WUgA%d8N|xM]1=Dmp:XeHpC7Z9V7'sMNZ~WvlB:e:qXA!W0s/xaF2jOAQ0]|e
Ud?Y9FktFnv:@l_JA/vJ?kh3c|7$9<:+21^Ak[MN<EjB3vdINFZd~*@qYh,w2x3x3XTv^=eeHDgcG)$qOVz)p+B6]^vLSBEVXJ7z
f-F+O||e-v'p.M;G^KO=OotWBa.F9m'r6N,/N;%^QY/L>q|*6Mwgq~3^_23+PL8jRa@zRkZEvXG2-VZ,ga?rXA26h=ScISfG5Q*z
M5klX:g,*IvHkE,*%_Fx6@@x5xvT[NOzv$P[l6FF4<i6I]5Ie7;;5pXXmrMa9j3/%L>mLfqoEj$-[HoO'4k)6WY(vwLjYp?0A,(X
n:7C=eec%d66|FdyU@R::Dbue5CVW@Ld%y[aAM!~_J6bm<*>Z~04My)9W/xS,qx(-IsjVNZ_h^U6JvLo(.9h4q)mflupJyGTBN4V
uuML!J0XD22I!GI<Fp$P~X_)Emt2S-BOXqwN30vE;u[|:P9<XWtJv~SjO328(*;~cz[-2r4bY]$i==-_*pj.[.n*!a8&B9$&twk$
@^vUV>W1iA4X.3|68D_2z'RCQt'qv^(v]1o+d)^XY7K]m's$-!LXHO>F('oK1lR[YRb?;(tG<_X6eUg^?YB=9tb;=_(UrX|u1^ZX
';VOP+vB0hGs,.ars!ItH!9rbuI+tvj'&gaO'jKY4u-oisZou0m7q-uj=*3O7C1a1RV1P6LZ2l_=W:/|1THk>.c6r8JYF(Pip%^t
Sp+[0Sx2qYp'fb?/J^);5bOs&4GB,Aq!''U0*N.wFxjtWtS<f9Mvj|)9-Rcsg,$^E^-<k[26omH[4c)|___Ux>PwT7m9q>,b:%x3
A%K|hnMhV~d;60@s6?A-^D.e_&smyL2lee@<A[5^ss%48T4iMN^5!@qu,n~+8(XYtCtZ~Yc=8D:bpj42Da~iEwWdEV![S+eIC[R8
pIfP-N9E*Nd-9:DC?BDb/]zKMt%tOFc7no'cc)]k_5u[2.m?@q.Xw7;c'9WxaD94<lZ?xO^Vd7Ewopg-s0H0.foyPp*Gh_YKV:s_
xxEwMb[iKJi09JU3VH^B9S//NZNex~;Wo-Xx5DnfUm4PswR,!*q7+n12J6ch;C?:nK3S=52|ckj<Vm+ZjWdCji[&GS]lxcKkiQ0H
I7B&YXk^zL2x2U3DTG/s[l@ME$^,Wi(_ozk[x%D2mxLFN*_s$g@2GWCwSS@cbr;Bf$*|eZp>lfU@th<RV*Y.1)vfp(RK;^WSUK?y
DkNZ_Hf%eYY|AKw0UQ6DsMbu<c~KuXqJd_*hj.i1PJC]Otjjdvou~,wsJWOEA|dJ55T+D7w,^!|3P&Itr*Mciz|UzsYI|]%ZEL>^
2yttyZ,>O=~7;ykNz7kbp%@phj8YHG@4&o]xRKyiK.Vc;/BcbWlCfR/+gHY-ccd+kTr_ED.lBL+D9uZzNx]O,d]TA.?,RA'zKS[U
U^=2t<QW!Op'9*oPo%,8cii>s^)?jsG0%qbd0)@.8=7C;BQ/y+o4A&P,*Q$s0NNR8dZ4l?*;Q_[j%Z8IuwB%ERKu3+e(>K]4ex)p
6LGo+fjzWh3+xwX-_xvkRsqZo^Ac3c8Odo4$d('+R.yiIlCOATb':cLy0h208XR^4j(U,QH4Qc&?B^k(_6Wa(s;MvfR!rmI54Z0F
atb'HvykHtdmaba.*_Fi.:3iP]<=qbtvcVB]k4|R>%CIno.IJ&oI[xa4'qgI|pNMPnT<V&e@klc,<)TLE>RRmPnz8KDL~~!?TEdm
@'rN-ypWpk/4X7PQt$o._M8]7kgfm4U|8JCd|$f9U:.^-I3b=J4$[/H.Y9+RuB,pd*omu_2[[~.$;~b6DlKU8euy!N9RSvtRw'Fu
G[&-lIly<H4:G^T1cdAt2~j!3[$@:|6riL[B2i]g+bpS$|?O=GzLJt5tZr?G!x1v',XU-R|$7t5r|h2|7^PS,zuAf0!R?>O?l4*o
'6AH4+r]SsqZ=@LE&Q@Ta!t/O7=3wllU8,9J@.f)@wW0Wo@>;poBB|(Cn_sEr)S7g,g1L]z8<n%go*wT7UH+fq+w+F+I]tId&S(U
Ev3>e'Wnsudgbo2a@aNY(H9D:.=s%[h?ElQR'IL@',S-j]Y?QGq&^Co,tKu<$3)Z/ajr$m8qvQu0n9<+R^2;scqW[H(5]@_Q,FlZ
CN,X(r0rO-a'[i<7Wm|6y[i1sd7R-nl+hAMVoLaIja0Nt'l136(4Qq|rH4xxfRaZtaMa&KW~/!ulwtqkBvhiK>$3=P.w?%Hga10R
Zkc=[:F;W3kqhvY||UGmN]3qa'V4wKz4$uPm$('~B+&RfC<U.;1PVx8?>gm/PmIw:2oMoA>z:osk]V>iG[O<22[v&!bwDZ0]*;5r
u)w-c_RG0YKJgd'%]1|BN:_w[+KxjbXJaH!:naJ^+=bYJ6,SZ:*r_@wSP>H(BW77m<kJlo:t+0aYcK'0JeL9Y>uxLT@Pj.jjB0$B
g?44he)d,_Q.82hJsi/RaVC'Bw;z,.-5EaoiG-LSo_JZaPDzR(*FI%R14F2<<5zPDV89?a,XcNMb?$Wo@u8@X7Da]<&&VR2BbmxK
l'&RC>_m.;WL%G3_*n([Bxbon1c)Ufcn@][EOui5h'7T4;^s.A>;wiCe>EU7=At^!NwTH!fv%&!;<oPI/l.qQ_v%zjw+EX6MI|3r
@I'AQyTjt5kBwP@cYL0SZ6V1*8)PI|Jg+.znQ,OLvbod)^b.9Z;i~Ui4>FX*&$'tU>K3s7-wl-IWnZ6Ci4J*Zyzl6Nf?*CWp-5eB
8N+|I1FSn'Z0D6(mx]uOg$-|-Sb[LrhnF@@0Cp/$v2WR*9zEGs4A&qj-<uMXRw[idP<9Bo*-v-xZ6<c?Y9<:%0HS3pm_dctPcwCx
@HjCkdZcGH,LF2*6gX'.Tta1GNEMleY%GG3=5~%(YA6NQv6Og.*_p5(fQBfQ6TX(K@FFf4A_$CWZrw,10w0zG>P,=S.M?Cq+eLpS
f,w&r4-Puez'</[Rl(FQ8!Li0(UdR_2,,Hr*vliiK:ofV/z!1Gm8W,j<J(RU+9evvCU$~,:@b4Dqa22C/X4q20CV7?q!HzJ.v^=*
/oZN>29GC%.ZxvbVJI&Tb;<[9HT9:m$xUL'TGn,.K|%q0@ARUIm@Iu$9,g/xXoD+9:+M_k9wF&X3M)kJGyTwVFaQ4(kNvQF5>V%x
$$qLgEImd7[1nM>=lL-E~u<D3*mrbeq3Gzo|CK]n=f)iU0H05oJEx]&t8b1a3T??c&?K9HW~YKJ@Sa@Jm&01=B.5~2&mlxwq7i>,
f4O^6%0Xs,,6.89R^T~k^z8a@%VzS4O^-6.;6*<eA9<[2&SD/5~zWN6W]h)aLkCMcsbw@~<WJ;E>-r]_<!%J=biR:qJ+,@b4=Nxg
fhlV(I147M*j~'c/dR:i2f^'QW3c4[>iM(GqCC&r;iVT~ID:l-4U(AF9e@R?cWQ-v*oYl=2_a31ts<:D_PreYqg2wq@k8rus9Oth
g,VDk_h$7Ef$wh@u99+mAR^B@$FzXb;ZNUm?mO;[cc9[m3V|CRHsZGT6;s!Y88rx]APfndviS9z)iKo|<(x1Qk,Ml5=)o+;)EV>[
w*%d,bM5wJ!EdqQ9<ys.ZQ_f*Zu9yIwQDuE9xuZEC25A^vsi8VN&H=[^e;0Vc|=&0s!J~.IfWZ:w=m1[_M~R5GJ)+[z$*~f=?HH%
G/]w!~a1ci_>,t^lu6O%6h4Kx+K67GXJ/q:TN]1sfFf/&USc6R?:H4W[fM0$AgiI1,t,BqrN.N'tSm4nHtnW,8o+JF7Zmkdk!=J<
n!HMxSg>2(<13,Rd$0[)KYqry<X5eYIu~Xw,++&sS(4u~)TGpItKPI]i>8Z[rypQE+Bz5H[7fH>?xA<iCBa+<[@hv/M^0gGVG[H9
3bvi3:UGaM,,H>2>F9tEt5pi5Ym7YGH|*++$_.].?|Ox=R8i(QV]@~sQ$C[6-Zu()9sKr*A+THT8km)%UH6NR4*z5I&rRa.[|;5Z
|7<0:6qm'v6,LgVbkK07_oH4$S>vgf//y4uh/3$K=I:cDf3O[n/g|J^NpMz5AQ]iRL^qsZm-UaNJCU!mcq$O>dv?$LJ$u/|S$C)e
J=(qGJ:G8)[-SxV&c9k_)a3;[%pBy7_n0*w;]1SHzw/*xmlH$QU.wAc~:-c]jG'.PA1er.=Q'y[e.dGnEhH2kQqKYq*GLLGtY3Cv
y6*dJsIm%Y]-~'K?Dd%hyfMmNC)i%m9lJ(,:QgZ$[lRBJs&!+H&5Lxd:Wa6H,I.k.I4Nsoq<I1sQ>jAr/]5NYYfXM|4Vh4.sC%g@
$ssL:v.cz,sz6>FgmJ)~/ZSdF*R*3m(q5m(Mh>BF-wY??M$sHSakr!f][kpWM@*AN^k075s_?T$^PxxdAnz4?^z.Ir2i$+sa8|WX
4FQoGc>3a,x64&auODgN&8sa~ik5aoX60.Yrz+a3IRD1p8FWDmXTRNI;L)WhqbKMwA47P~^*oY:jQ-IUW4a_j<h)!4WMkdb$p|h^
p~r%e]blu-rkHm~)8uK%im?.s7wQj+RTNEn3)hkZY$=2/+T^SoWcs'_5en3WMV4;n(=T!nPuo]94SI6p$?BJ5h10Ib,>xLvIKWcu
E%48%lTi.M/)u+S!7s:_:h^vVtaD*jEHk,_PGn[<!z=L@J.6H'P;drs_mSf3;TF'c([$F61>N3^$S0&a)BQ?yWZ9F>ZNx),Mb[=P
)rCCfn/nc+zYwv'K=F,'l^ve_*tIS7?1&1UA>Ch+Qy.[];JlG/a43Uvj?kL'xsj[d.sk9o=EbNdFg^j[3i$NR^T)$YPNb)@M'kVV
uW<>)Up]FO3H^2Mr-CJxg;.d(WpRx9UNr5>.g?m82Y-:28Mh=A4z!Pq99MR5i%ITtjc/UFN9lr.M6:ZI_i7H*0C&L^DumkO|ldkG
MNK2a&>xLI/C3y>HG]y.Al6q|Duk-qeSY0xvu!A(RPwyn:6XKLWO+S=htd[NYd4:*CBm~(>G&fd?)G[xcJaG;FpU6t[eN!uY5!t&
6g<W7AT&k~VJI2XK&kkE7@+eVrG&rXBOFtIrHr;As0nb[-)mz^!oMyg^)=9dH3]x|(UqNMAZEVC9B]Fu[oD_hHM,03pkp]55Sap%
xZKZ53>AG;D|!)(kFkbf$d4fZ,p=;Bq$l)wRyXg$lIww!)vSB%[Evp>TH|%ywcfx).LxT8<a6iCpJ'kRHC@Mm6*?+Pk_pS)2,+>I
1>azr%;%z)E/L|oV3Hru&/e+[rkxoh]Y-yPZn$F:*uAu?p38j4*ViKA[<fab2B+hKeUb2O^vnqN=4EO'FbK2:e,''~n[H_@@dbxW
d^1OMj?YO:y[^YMOHgRHXaLhX)MAc9qE?04~&iJsBs^:=UoiHyqB-c(Y4Meh[$~GwnH,KRr12VFTATRQlGg(y!85$)z2:F6%H-Zg
,:44n.]:8%d|0ey<=aCb]Xes*i.)Rvv)9+!wHy](gxL;R7$|FKW'W%!wDM[jJ;/p<_rHu=yYBT2:iU3+/TvDid,.4X9TzGLkxEe]
UBtO;ykTGd2cD[/cb,99,K;t-8g;D@j/h:nt]tU7X98$05Zc'L3g.yGl)'EuiJlUuW,a<1Gi6X?JKZ?&dwwfErEApG3[[qQ$n=ZU
AlZ|0JSi3?O)FWdxQDG!zLZdN$;jCzVK.%:N<:(6Q0P.@LCI-Kw)$'gLQF86fNZ6.9+q@59-$~k(I?JnYR9!0%3rOD5&>t:doptf
SWNV2&T?CrZ%cMs?MZ7'1wwozC&sS1o[SodNY.~RX_F'6CT=Kr0$C-_S&oQ.3*Tt8P9JMPD%=:2voW-z9_8>BN4g:R4B,9k]:7[s
j^S0+?GjAr%3/T<zgR(9-.EjY)+=pXr4L|ynIqmWt$=fRr;KC39n>B5/slnlc1x<BlUc=K1?&H1iqy]<1E)n_3f3-vdSl>YDAU9Q
PWudj|u(q42+>%:'@Kacz($$edcvN|GA>Y0(o/$*ed!CHMTzOe9Mb>:o3Jv7>_^tW6/24$zP(+KR59/&tM8G!',=>/cK@YEjImKo
8V8/,ec[MEoSDv_UiALLO=zF!n'9,z'1bb/SC@XyM-$AV=g(j:7kZ;vP0jZY@E6*@k3Fp.b<@DY9?~')]2sz[E|jlhZf9nQcZeQV
u.hvZd~cB2s1oDTa]n:FQCGr1KQx'?!G1|0>KyLrE*kC>~3WJFt_'kf/2Ze_nn@ROH_Kf/h>*jO_39)h!Dv,Z5y1Kt_=sLLu[['=
Vrz?Lg_fb+P;Zv'V/YQ^d~!Q&K1uEEZP(gNY%o^7bH-jsWW?$g@hf*r=K'I2DpHc@?*xbo!PGWJ7EAS:t/HRlx$~=-<!=:K@X=^2
D&1AA2*tN6m<H?+axe$awbg6oiPSCV=?uI|mrWdSFYGD.K2tNQ)-37P~?vWrrAqI|L|Uszu1<Rz=CanYr,F0b1>Ln9jyP_dP2Z5S
f<b]x.zsd((syWz;YjomO:;uu;1l;_o.>VqA3|j>e7vZ=tq/'L%'=v<]85(~poE&SEoG2~,y*,uF&g%F]v@ygP'vX)U*dp4YORq)
&<n?$PhN3M.fl(OQX[[IFTA1GxY3GF2yp1]Uuw%%2!5mBZ3!ljvr,k:Ccm&z-3hYc_qmWu86PL>s_+VAS^u^*Qy=Yqc;72-Yf*Ny
/AtjRO@,N~>k!X*.cQ%'@'cpyjm7I@NUhsSQg2SV2y96@6*>7tbb!4PNm)2)!n/3^NB6dqL*dD&Atz.FG[8uwVXg7PEnLACDB$RJ
5,~P=V84lY@QacI$LCk::~D<M&C1NC[e3ovUBzDSWTo4&Mrq2$pz*l'<[23KFWOyw6KblDsr-cayu_;<_c+pf~nme$]=?^=E:*ON
jwpfqA^W]~a0bf~wU|9Y?5jZ(l.r>KW%]@c2EWkK4o=9~@]?/nuJ_pggL+@O;Kfn$,Hv_ZCUw&?@19?<V[]t5UtmJ_zc2Er&vwAS
&j%TR3SEprK878ua%Wx9~/Xyuj!'tWLe0.c6KJ4+JUl89Gd@ssjT>gmOXS+S$P[ye*qVC4vpP!]h?9=/EGK/0C=qL%]3$@n?zN_w
)ZXdpfKMC?jEJM1bhIxdKbZo7a?h(Qdw.)jW?8RkrhRW0FtBaqm>'5V_KI&^,87bKlEKd2qy,aa0Qa!+dl=allc0jdS[Kl[.c7Z)
N7|+gv1AmYg'h<lgTf]bTte=hBg(hH4o&<<l58$%OObKSlcGR6-oYxZ%fQWAYWx)E7:a=3!xqqv<oM^w_4<]f50]tk^lK-['Z^jr
qV^K^IN@kug,%CFJd1+vd%7EQfNOPO^Fo'9E6J>TrmR5o0kuA|P5M]'eMOaGWvQJ@N@ns7:R&q'5^sNgb,+V'OVobDrsAwrRSu2u
EE=eo>%oU-OEcd8'$Ii_!]AN2Vhg,ss&C7ud_ra8GZH32ashGgvMYABUN!y6z2<F<aK$1bc0=/_)@DaszsJ2?<G=e&@^CT5<AX[p
>t0kOu0-2Fo&2IG~fnl36UkdtX~Vet^[2akKunNPRFS9]*K,I=Em,,T;lct*QHPvBnJlRiLaO;95^UaV:~cyQTKm$+aTlP3'd+*P
uVV-9l4,Mb~4:,=4aEGj&EkmXfUjgrh&|oi_N-]rAEsgC=sX3h@vXkEC]]<8qf0)PGwLWbnYVR=h|[!$+e%Hn1;sd3(]JQ_DkD3k
82'&nBWe%'<70xmAS$3?09(>[>Ey:Udl<6pf&D<c|nIImSiaK2~.$nu$cNY,o;NOg&Zfuo2j::liwd)[E!bcr|/waodGY.k+i/o=
D&Y%&)XG2ii)DvloM/Kb8az^]J7YSL]nX$=FVs/w8ug[ftt(G1])<8<%Z+sLN65K4aKe[<jpF,@]9t7~n]hEP[OOhj)esu1..A<t
Y=;ILc8UN)dFhSOr$agXk5~,*v4rd8$/>rdBi+%L+Yf:(TAOos1RW*-BnfllqO2KXnJs:DBymo._rfUPuR<coD45GIiXn^TNR2Qy
PTiqjIGu]DgmnlA5bk2x4=J0&p3ppM.G:^!gAQS18<|il(X;*903a';Yg:Wl=RE46HiC!^(r-bRgHYmKu,>_4i7yj~,]UD*%R_C3
7rZUL-,.|Q?B/x'-*e6s_nlmEH^J@YMg'Us@6LodvL|fgwkvq9^r65pYv]Nz>t)-=G2Ypee(a^%MprVxYo6gA1s7r4L)/mY2oMa4
B6J^+r&v0n3)IV/s$zrDXbo(87>k=I,^>[3Efs@oCCaenS!yIGG+pad98HIY0KIEHv~A2*6)$YjUr/p2A'!@'j4Lo12|HC8>fmVn
eWr/senk]h0zk7i!lSjA1)o>2taoYqxfitK(r,(>zqFYCY4;jN=RIk9G'-/);-=_yfhmLhI3HPFEB;vc4RzBDn&1b;Tj.2p6rT&a
5P.MU;%!A?CSVU!T;4N_)rM,*U)kGXZl@8juV-[IjshutAcsvcb$%0_Tgv9gEFH/tAx95i__vr,hFsZf=l9~]Db:tQ=9?60HEW6,
xRWHNay*RSs3,g5Ye_s!$<6I0LS|mlSsSER-q0LsF9<HtkHm1[0[&O%k9Gy<7D=~$|9h.9/J-U'hE1sz8NwJ,?73%%m[C]zDAeq6
^l_;GDZn~MiMJQE>|SB:QH:?_UMP1Jc&OLiIWM,aOFqA47B>SB)A69ieL13oMxPCPE,_A;oQO4HA@rbQwH>y_CRIh&rV[:6mgsXZ
is=uO+gH=m--v,aWYvrgO$RN^,Uk>2Bz,'tZND+XH>!srVA0jte0T~ulhkmPMT2CW_!bwfAlVN:]&~Y._b(|(PA0|^=OjhuH9'?e
:TZs|brNdhH6%[~bTvV+*o<:<>bXV;<@tJM)P?!oW&A0/QUe@x(R2wC5_zc'a)G_&KY~thUZ@%d9[TB'-9RyIu@k+<_@>fQE)3.<
m7oe&/RK5=+w.;$rO=abv()fBydz67=1:>ofoN]MEQ&Gq-=W^25V'IYuSg)A+?<!S?5lJupI8kEoF3pIUs@]n9yP@~>fguI)>,c-
|*mKL(O:10EV*(D[w'W>AuhaU:0noQlm*kyGeX>vdy2@dt@&GLqNO</]v2OEBRy.y[8;PXi|.L>[=aVFO'[1%'t(euRutM0IW^53
EsfQkOs6G*uB=i7u*CCg*uwG+^!|PX?Ux)zSz5?WP[VF^blU@:ip|<0xM2&1)ATF@|14j[g9N%XFHiNrqNpaP&x^%EIzxEu%N@Ua
[xCDq&J81QB4$h97IbhFx-[;U~xYV_|22ak@C_L9A6nw[@~*:ywF,3Ab5LZK1,/0iq6v[[Eo5qaCvPyVr;mfS_,RBj:xv2k*L/u4
UF=hMjVQltII=c3~CrowOw=%Ih:&>hmkDGk+$FUzG3dlranI@@Z6pB4(gn'~2gosn/nw*fF'wlEaBsg5$F55-*I6G42<!9Y4n$2%
GBjs~[8U^v>4Pc~YqZZ^e:]AH2U'8=.=_O[Jj6*yyu,TS88y?vD7.<>,7w(Mf/Tm;&BjCJ5!T=K^=U$poeUFPw6rM593UoHCTEMV
UmNm^7$cBc2gWy<oAT.KWqo~YGGxRzmTqqJi%lsUNmcDWNVv[H0VJ611|X4lla:UdFRa6e0yzdbnBJ^IXRAT_3ls/X%:t,BRPq!f
0^yK._c7^=fB!iav%bDb3+uGT5v!X]~Y9LAE&S-Spr[!9UzT4m*@UM@<4dYsC2$a8|EPO>37Lyfn$AoT~ZFc8mSwI(SZO<k@;>z3
@5sgaZU7Db7^kIeDo7eT?><M7OV0)lWC-Lj$7,^N*F|uYtG0NTZ51k)k)WQeZyoq[(tEi9596]$=hXLV0b4H&sZ0;]x$!W:sKQS8
/4,sp_<@PLy?5=|:p2Y4|qwG;-Aem,:8Q$5|'3bn-OJHB!P7=5d_E%&+42U(Ar(wQ5'2-zXc4C.B2Sz:q*/ewm5!/PNhd]N]7LF6
LGIcU7M0mj+Pm/4~_UrOYwnhUhbHqvSsCJPUZ@*$u-A^4GnXd[(A0,^@2,*>CC1z<U=(Rwind/|bLP9;47e%25V:i3|a|jEwxq8(
Je0DJo~(|D^$y+'Z?K$>R]MVW45a^w+@Kqp;@*UB,o/%q~>qkaQOnqk|*t4TeaNx0c5m*cB:(=se(fl?Q0>ZD=bdI]+o*kQ|e7H:
b3d7DM&j1Nx%o!:d9PcD?J46/dq*eX*V8:!Y~an(hvU;b0tv~s(K5kFD|Fi[BoT1=Bl!GQ,n0??T9);yWjH4a,zJOrHy_3f=6Hu5
Pez$^JxvLO%O8vA0bw'ZmRDVRLH~bu8x~[5j::io:T':S-cWBbpG)BZ]azM1u:F8w[K5TCu+f'l5vWroU=V[RXD:zo_dmRZ'9AhS
0[^@u8L|i[z?I_sAovW~2uwC%.ga0Rebj[$=E9HvFxwsLYYTvAIXel,Qb-V+I7O'%B>'(ME<4*F/1a;kCK2cgx$t3,Oym6)'%/EI
t9QDEpfro7vt(o%ObPK4f$Yhv4mg!VWNLM,v6TbC+Y?C]!1Pv^:6*3RIeJ%'+.??4(CC6Bhvs0X(68w0F-v|:deoip=Z)0K$%q?[
(+w*u~Yk<Qgj-N)?EWW5azReg%M3k1V15]nGQ*YocDkp',gMmh<|54[?ZR>uK;JZ?nie8&R|/^>_l:fyY@tJz(')wn7jj[Nz=4/5
G^xICmRbqT%P>8UfoGxFGtyc4Du?.v+r$awAowFfcF+FWXf/zOX4U<c3uoBbh5PA7Qq<u)fP6aNuQLM<pPJX9?,3(2Y5kF1rM]Ep
9,!&HyLnZTb;RZXfez7tXwriBTCI]9)^4:o/CNBm^l~t~&Aw8$'<IaF_>B_]yHrByH4n=ZvPfc=_oy.Dif%;M.0jW+_K5.JJY-K9
TBPkX<6/]I_26ihgJUbusq|UH;XwdHTGIEbtSoV^nq:/H)4)5/k;Nz:jvzkOxdHQV2.S$QuNh87<<?+7?.9jYBZP!(Z%1E72!a7h
i&JUr^rwP=/68SS;fIXwsr[b%l%@RQq]cbdtL5I66b^0IKnB&TD/.)TCe>'db9XQx^2sU9On:nd~GD;6CtvNwEKR:suvREHie,yh
R.!gy7D3aFv8zTX8sw|g]3be[f5)pjJgFNg~St-&P28hV9G5R5JyC<(/tm^X?,gOy^6e~75*ej~Dg^aG(d|132[8[R%+3~OjVx]X
RZgX4]peEi2z@:ZU(Y,n2h**&-|Gr9DLdC.x5Q%.HX,sHrPoo7cr)UBAY$Pg7k1eh<U,A$OUQ<%dj*;ax:JkWaYG.|AAqLGf)N]p
<9Xa)jybOZ(.5JZmaF^_|inKe$;-2O[frO?>@o9*fC-]3Wn7aERXrm'[)8y2b.lo'4y,vv0!FB.6yve7;xnJot5SxEwM5rzyBI;n
G6CUz.w]m_~b[8|>;SiQ'0+0:w_=Y6HpPy;^BK]u@u&KA~rcoKC&]Ay2;HT<xD$3tuwIa0WlUZhRBhQ1X8J<2j[>~,CWhC6YFB76
A+QkC4[:WsgCSv0WOvRE9],P&^t:wbHwv/nIh.@8yK?_zy/l=9az'-M9Y^:0-9w>?SRxu.G-(OY3J^NC$YK%'7MM@kdw$jB;Qz]O
|GcpHFPb($@+c$/3~CeF~'8h*mH$4F,AZtdP3Y*-O3<;.t|QCB!z<fdY$+0cj:qcuU<S*l*OcI|k96!!pNaB!_Cpz5m*@/wGH9H-
/lzBm(rF?*p!75B&:i]*GY61RLA~8P4NSA@+.kk]vQEtnp3u/y7pv&~_4Xs+O[D=h(EeO5S4Gm.qp$bcF(y*%~.[>ge>~7W^BRVk
^Km&$QAI>3ABfjx0i-d5dk,vs96PVk%NGLlw:caNDY^lu~LPBI3po_BE)'Jdpe-<O.vh]$wt[9[C?5FB[hx;v4=<stj2CsC%Zn=%
=iP,5p;bR6]s>tyl5%*vA^r=c,]]B3)'KrMC@W[-y&dp~/.%VMEz<)izm)uy/fi7Uv<g26d|UbOrtg$@3$1lCALUg4e2y-slsPBY
&r]|z)|,$)];?od8$:hjr8Mhu+|c8?S:@/amz~[B^VL?LTSZ:LdBTWwyXtB>7a7bor%9,k|1K8s$-N7r^2i$/)31!r-A/|9T(*-~
&lmc-zEUk!]2S~ko:Tp/PjR9Lz)9<**g50h%a+&6b/1lTOn[~&sGZ_<~cMtl.91t[s_6VBs6OW+8Aw![u~,&DdA,iolzj%0a2[fr
;?O1<Km?vh7NMG~%i(Tjif7wF^7lt^m/o*kIP>+o@Wn^LqE5tMwKo*7ku,fMRUWOF@&;mArgjhGt3Gn8n/],a:nf'kP:/v?hJ6A!
0H(Pujk3JpKj3oa.eg%/JKVNUfz_ftyq1S<J&+[KJ+zK?/<QIJc8A-~.e>t,l9.9T%a&M@hJiE(tM4Lo;kyOE%D[U8pRq=PgT]0d
a.gZ5tCAW421M6cHg$-5]yxr|D]cG1i>UGp<nE&?:>Sv,'=4rJq4*?)m/]?5Z'+k!',d&/?+Phj]C4pOmS;yn<@W8kZW!HEu.Fm?
j2K7Ln$Nr|NeUI42;/eec~&]l><?TsnzWvy?gpx'S$Qy)ih@:dA7J$112c:BH7T8JK(8zM<z)?!G4YDCakvXVmg>YP80OP>QA5lL
X;&9/&SS>a:1mEnZ,s/D6uvx176p08[~6T,JdR/q7CZ&!]fe)5vi=uliBBQ3UbSUkYB7IObd(to]/)DETE;[cqRH/Pn4gyjm=0|s
ax]|]ihHH>zj6>DF+cU(Pe*yqmHYWy6KZIt.t=4V1;(%7KonmEay]xUXBi+q(H/3Q@y8<K(b@!KVGI[O>cr^V8?47$hf=<[SLV+M
3x&g|z+f>.0)aL=VtDj_lxVI%wow5ci/-@ijuUK*uT*)s.?JY:SL)?~bQyK7rLoi&R1-tX,r!sWTYQ&1dPzTeDbDcm:2fhO=WN@h
$)]mekVEoBRjk6R@_QRKxw=IrT|NyDPT1naFNy0jl$|3q0zhSp[@uf45NGCU@A+o~2q2es^d-R^t.=_$iD_>.YK?S.+!5fVm,?1[
Rt^MwLQ3wX+tP@d9sIzR+gfKV?U$A|F*5NG_:)@h8ug'B7/Zc^_=cPv1?|:0^S2):3J]U'6]H4v0.uH4OS?ZJmKcE,(W+wzx]Qt<
]f0iJ9=jFswTFzp&$s!BaC6Lo%3|tBG&=RMGB9B=4|TNzX/G)oTI!f,B2zM4itd(rLb1ySG~v5cR97&^$X3aRx>@_C)aj:0SWq7V
Eqe|hrCj2y@39~.9TtSdX(h<O-Iewty9TrFzF5q,I,,_bU5Y@p$N6Es9vVaJ5]-ssk3[p!$$wK/hEEY_CEfW=<J=x|QmZC>~0tzu
CFD'&|G@!~L5;CYcaWQYtuv9P!DR(n4XELIyyi4Ce+DC*xK!?3^d(8So0BX?5t94[]ECTv%D9'gk'5VT-QKm|y8qw'CxgF*9do24
42WuvzSN=ul3x>n>?fkU$[F+P]nKq+_4]C;;|2!&ez=!OgE'F~!qIMt/<)j_oFZf8'l7SEzd-C|*38I7F@O9~UU@lGKuXJgIIT$;
I>n7THM1L,k+TyUYZ;15JR,QJ!P]=X4:-O<PM(7(<MF?m=_n_P.ig/!npTXWR(@sKfU8Z0|!&>6r,3P$.^dx?7@5ng3+dfrBN5d'
0%..d~yM*!1z_?P<c6XS9%jh7qq->=E@E_'D3<vp0Y676=a!XZSD]c+)Wjfs]3r+1',s&uN-DG+sl+'?kXxeYhZl;h)fi,XVsh:q
BfN1V2csStnEfM83ost;5-1>H|h<]|9S[4u^]R7q?Y:jw<wc'd+|J,3Q,K<fH4_dBUyO.(r1)o5bAq_eJ'dg.AqGDgD>GApVrg]A
IfS?c'_qBN[>,ntaj8sfzXd+cT@vu,Un9mJJvTDm2l@oXW7cpZ]U>y=E/l9pe%3;?bo36E$7G!t-V<w3.sRLH'+LOSD,k-ith~2g
~To31(Q;>J)$20BXdTSWA)ouVS?C[_b0OQM_Q_m!D9sWXJJ|hpeJSrvUTA5%]ll)+&ig1Hm'pT<mrLOr^6Ymd5OmMQS6aN(!R]SY
ni)&bh_[Fp_yn)$%wONg)7gg+@dny!Q:cI0SC(IG8)D6v8Id;H)X6=cw(J7j0H'/I(8_nI~nBX8=6FIZFt:R~Ot(zOATuaOe=;ws
PJA5PO)%~|Ja'a'irw~%((lF=DVnMt3@'|v=TX]aPfo8R>r-h3POR?@sY!'^mM;h-7T3=au<+.=gNnv9bjpK'9Q>]2d|_W./:EST
9@|BXK=y<'>yQr?ZF~Dc6AwQFL?s!K;Kw<lB.<:eo.&4i0eP9zoXun~HOAhXIQ0_n;!j_e.InP-[+=r=TI~f)1Q6[(kdKCkBT4Y-
Wow0$j8%L93<d_?*Mo_v[|>+lYaeh);7x/<Fc+-7+Va8>dJ<)Y/e7)rIPhAE5p$H=TJx'b;Zr7fagXPQzT*Qn>e/fm$;Sl,?a:J[
W,1c$VMq]&TBUah'MI2Uq=)9W!%Z]AFdgr@Zd/Ud&;jTRU8SaKUoSixWh|@/[2s((EH)!']5B'AYkO@a|%7=L|e,YaI,!S5Z)i5w
>3ef>KVxEfsSg'cf>@2cED6[.Q04;qxCi,md6+[>((GRE3|>zHXifB,QZ/z]m)xiVk,!TV0^<MqA4u(9XYowt.+q89A[h*Ydy1[o
uiA'uHKHF8z1XdVEL1fO%x%y6=S7?$>mU6L5Zc7~Q6.+Xij9SVJeVtpl+0DkUB]d9d.6]I@ld!4imW?iZH&FI*</~UqpHqbA_sq]
W&-i+K3DyMJ7Qo(jb)s.lNP+7H72ydp$O.wg*6gpDKjcQiF)TL32N/qRNoSS(Rj?,']G)|S[]*YJ]x<OzF_gQgY~>_lyC]2bN@SL
R*/<58lFb7!W>$cF7D,w[Lu,qCuShrN-vhM(D>Yg5qi8ik,TmIRY&I/vvuwuh]CoRy*HPIA1chbSX$j4019S<x6X10R/~v@KKD)z
kAz;CbYxYk]*xc-rklGkH3dD/-k]F;WxA]d%~|Nhti]wWJ;Ue,^?^PA=%<5:=W4B>4_ndLH4m|>9(qdUofV0|n'%Z3S'fzwC,E,|
BJXdhGqfg6@ZzH_gyXDI!xGJeKT72=g*h+uH2CSe$B2]1aDe[mmaB:,H7XMXfquEZVSi^SZenXq76WUMBs)b%^$J-;yS>sT^zl0Z
$=&y@/N4qYSi9HsP3r+smUO]@&bqTZ>,4oVyzZ$'MA?AB&Ncq]k*_s-Y7S'45B!'F/Ff,OeT|Mwmb47VLb])S[~nwpJXpPocg]2'
Qwo8-cI^Q3fjqiG>hiz(eAMGjI@F3&k%_s.x8i_@,3_q_JASNduv0xEo/|Q+c_;jY%Cgzf48a)dAj6'|x<7P(PAXI608V+ZgUMq9
2f$gfbrm93ip+!8q$c[R]Lcs(y4z2cTkWF_&%+u.*m![R_-~N4mc[=^w6mWv)>Gv*>DamB3'Ek6pmyWSKNl4x2y5'!78dZti@t@b
rR5n$.y9VCeRFk2^CL=]_0X*O=%$%BjM?kMM=01|CHV_vRZ;>7FP6::,yo*vbLUETHIF3cI:MSHBbD@[psHk3WrBoSsog%??h|^t
!1HO%!jjd^W<?q<Ij|M2,~sZT5Psq:9.Ea4o*jW5|><x[/%!ex[z)WGx|d16xp-PqRDNK8DZ_~HR=rF10;V0D;+$O'+;hy?edD5w
L5*-,DZ7I4G[RUXz]HBfFq?L3*z'|ldq?B[cvU?xM3;[,^rPteCygLetA4lv/onE_GZ;tstj9W4DcqT$MMIR_W>t?dO!Ot@gl%v7
O_L=8OmT8xFomEwuoRbsW9o,_aDE19~Htq4fb~e$/1I(b+Z1WchwQKB;Vw,:m<b(5yY/U|TJ7%l'jLnDlF6K7zBVmUZ-@3XP4Sg!
+K,J<.CD!plw.4'T9~Bj4^;y6F(R;0P+sN~p~SfiMhq^UQm$Bs>0/*m~kkPf23v[u4H8z/7$oKGk@'$*ww8|rD^ZVlh!.Tr]W$5|
(Hbg.<j@y.5J6?g;fEghA6o+=x)fAN|J$.e7IMhqnh-?S%t!y[*u!WRWz~M_^-]_t>%'''tQS-?76HFuNpiW>gF!bA>NmvgUIDiI
UukwG7E(tO*:4*kv]2=R_a*ZLfQi9S?i^zaMDZS@b,k+?op$ve|xX%0uOP)RH--j_S0pTuFyY;e!+[yME0;-*s,@R]jrY-lkHz$P
Eokg[<TvsW:^iy2t:KzUKo<VIs|zuoi@K=,3$eI70!kVC;jUg'%HO)GHjz[PQ[JM84[L]4xGD2Zic2:w<;MUyhEAOb~T:/GJD3'9
)sZ'av+<m9uffC@(vF,mL?dwYz1B_Cx&Qd?tq'XM.0gkbaA56+8fml=h%LGXcR~*z?8|u4sJ^YX(-N.ptLQS/Vq[MGWd8xn9UxTC
Tl(X9'T5cVI$S)T8Q2.^oU<b9xKoej!L6b!YD%b?Ew:6oQWe_oFjpiSjzD]|uQmj-vU1w^ZHV=J]I_M,6ZiUl|ViK.pukCeoPSu4
7Inhf1?MSEEiYEZ~'3rs^E>cEkoF=^zjDQw9XkIF~sJ~gS:gMvlP<^3W4pj8P_Ct!J1<jlA_$f~*iw&XPxF4KO^I1+7f;slW2FtT
4!;h)*|Rr($UXxr&(CNAW?D[c06>4=TEjXwWCW(H:j.e2@(Vb!iY%pG<_;roJ2_O19DOwS&!@&%|)R?.jSlQk(0QU0SNb-NJ=e=;
P:=S[ueSQ.vjtW/ucqyi+SJ%/NCRSqHg.UM%(Ut6]y9a!3W]jP+y<T=jom|mokNxxw8k8(alMF8mu!!Os6@PLb)2B8Lm3glVdT58
%xzIY3(.U8EUh0yb>[^K=$?'[<?KpN)(on0ap&i]2:4+No*ua@'JM5Qy/wV~z[KSP6VyQ1HkCfCN4LB'z'QMo2NCh>;,69hG'8J3
(MN+BfY>ALvvV>Xex=4/ZVc(A:;7wXRalTH@MWU]>ym3(C%w3,Sy,jAxo(.LS,/K9;luYSLBllRzwuXz=*k[*Ly/ir&2z=n.O^QK
1c6Bv!wyKM!L47>8d?P,;jQr4h1)j)U~.<IhXe8D=pG!9tmuc'D7IWvSLOXqQ2sjI|zsOa<?3I?B?4MXfXN01c%aE[I*KqdmxM~-
;8nN0m2DW|A^8yCk/^L*HO9NDAn4;S6uP:B20/o_8I~G|30_RZE|'r=,wF_5t'm=]6@._BSnruh3&,cz($SYt+mnpM.nl[lE%cGb
2B_yL=LRRMq5%s+76^:CE0YFqW/WN/_Ix@D&+W9)m=&WLROsYp%bh;'MAeZ$lkki'8F)-/|;g-afsm-ui++RD/U0OU3C6(hw'3QA
k+SuP5etHlD6Sc]2iR~QVq5Oq72UhbC/~x?[o.3k*5wjL%A_fLjKmFuDqGL(_uJ]ak$U+P@ESDyB,SFYG~ih.682_ONIY(Q?n[,w
UAL@r(hD$7nhwj92%?e92HPI*;(*hquxlb3*I>i'cJ+!2j_tb)A-J?y,MfEv[XF3rIhtJpR(Dd|&!sJ4z6Afq//^kTD1;6B6i;jb
u>iA%|OiIymLb<E'cXcCk[>t3qU)46f84QfY2C<-HpSa>Ig:9MY1DkH68L_(1RD*+zb~Fns=D^bG1QjIJ0XuKJSuYWp*G!b8IeX<
^3,WIaeuYmi>br_1dRV]9bm/c/%%h(bmg*/7-M=a;|7.*CG(;tdSY<HC0EX*:w0u|6FB:=07PJG-H*@8l:e?N'<jM0LC8.Qr%'Wv
dQSeNzS)[*>(/)p!l@3k~iXFnse_US3TI=iUQuy&*Usyj2mtuCeBEz[%p;t*tNN:/3Fx~&pMeFS@Is8kDYfzjd0Md:2CdOVlm2lR
0ZC@4fKankA~JZ'b!1XO+m];IGou4A06jNjn*$c5_qwi-gx6x@|UTdE64QJDbtwm_o|aP(l2[Hmg]kIYgJr^n2yzx_2g%L^Ev0/=
)CJJx=]swb)6U6GK1QSMGV<9/UpHFW$/HIs<T5cbJ*w>o8GlB)%5Y*-bSN39tu65xyKBhi^0viCzk.EG9pHEXb3/_y_1:))l|m'y
3eN$up/zD|6|Vas0-K87K7Bp;m5=Pt<_e,-I]!!RNnKJ)JBL?g.~hX)*+D_enCE!B.I+pv^C$5(/td4iXMS3B~R07IJ_/;,.ql>r
:3_.!|=P.^q<:i@Y8lM|,Gg6y7G/IG]d&(&RYc8HkiCZL7tBsjS1BdIA$M$v>[zu@&lCQmZw<6:%wWu*JY[/A1CT'eTnjMrCZ5Ad
LYGFRyvRIZyrX_~>a,_e5!o^C$5stka8=5>ZZ(20Z(Ar~Wsxez?tv<CP0[!y.:kpk3sJf4@[U:rNYUAfm7iMRz(LRe2vhePBw)Z<
3!mDMm*>j*!eT+(a=Hk^sL%h0sq|K/--[6T8v?y%(,X_[O=5/?nMTl9S%iYM)$Mc2uMd_|9=jies^RjI~VwO4C$@q)YYL6(Yb8F4
cY-C&X=qPE[_NwKl_mV34K$tZ0)M](XVlK;%y0GW./A:3-G@P!rlqG?^lRUR**eM$;D6'Yyp].u<J8/+q$.4j!qIW^tsKZL.%3E=
tG'lH.0!Q-h&]eKie0UYXW-OpEmUVLG>]3,?qF<b9NGd[X(DyMRd@4/v_o6J]I<|Qc^r,@R5]Xs+-Kj$!y2hT'EaR2n[E.P(M1C]
lrJ8P,:*VNW?D*y:,R&2Lh];t~g8~Yzh[@~I,A3*a^W;Cx2t(((I9]aTVKnJk:(:n:8_QXWaa_5|b1!]Q73y8>CIJ3L[|i$T&9n'
yu8a8+s,!6|HgD>&LH0c<P[jIq:/%N$6d4_xUtB;|bR5L=JOH'1QDqe=1d$ho[1Y)uKmJSWvs7&ikDDFnI]G>yyY7Sy5S%**XtC=
zlzBUGRf@<?4/g0x~2mXfl^'|8$A+pk/S=I<GW5-s:oi|<|TLV^j'<UyoF^gZxtV@Pnh-$Ms~*aDU?*+j][]L?7,(phxAZ?jC6=6
8_%:PXh$e)lN&$m2S+-eZ/af$3ruc%Fc?7g/%13*L2C%PI_il-aQlHvb)q$YgB>O|ZeVlgGF=/FP^qt&_.G-uLk'OoAWi7(Uf|GO
+[;h_WU77SKI<(%=iWhxWS_U):nCyH4Lm&rt:Zlt%G-1oeppvR(Njl@?tC&0RvRUJ&D)~ZHD<^;'^J1d]tc>W_30<VO&]';=0yz2
YlJ^=*)[3Q[zncN'_[4T$jldZJ&-fO0qPKL4I:YUN8?;4H2PEs<&%!IF2mkp0Zg<DjOf!N<_zvu7EtoO;$=iO~@_9zr[l8':GNlq
%>jKOf7st_60fUV9%Z0hC66cb_bI8PD3O99TjH?gIC1^xH:lhx~igNqGUO]@9pd$ck*l*y7)!t+bG|,!Jvu7>'d4E&M&$,G|$OG2
s4_k/+Zf&%2uyrLiYBF7FSNCmTx'G?_r,ErGC,/<[R<sz~iIifx(?EF1wlVv<uZ;0(=Q2q=zle'h&i$jwH)*B_^H,=:n[$%j2>OL
!lvxZzlZkD8k@gS4n~/.%&j^~DD9C9iS6@BaC/UmHb)*:~Fmx[<!Y$eF@0^%~5GRT[C2P(mY6&DXsOaBjB(nvSY(H1.0_.Tpf^C:
p&9=Et,Wz0M]1B6sBCoF_5iumuG'Z4JblnPObX%U,VqfX2O,=UaHK,-qvmY:3nQGx>_DgIaE=eveS1He(q!zc0Q4F3JcU[CvlYo|
<FT@+0u2::(vDxnl0IC1x'<>,N^G:R,vV]c*v1MtqFp33k:(s@q$)Q~YO[U+sjht_T*],?llO/|pTwIf'WyYi=bD^J*rayFLj<lp
2,PtN(qxVU12]<qeQ1W$!Z[OjjJ~BS(EY_D6d%Unax)(z=M&BI'T<f+T|3|b5^d&uQMe[*-Kd5cAJ-wJv]5w]qL'NnvW)_Wx(C[E
x>r3YaKT^96j<eFBrr6~|X1xteu&Ilsu,$[1bTi7WmV*~x;CB;lq;SYSb<E6Q)%Wr;^qvpJkA%-0H=QO]f+@9-BEQ;V01fPzc?e5
7[&:%l6h4vA,Kt>(1'%>J-YvT]kTrZN*px>h0FH6:k5z7FZz'YL*mAX6)11T/8F4OL;3C+=l0Vj!e8ClpvqplY$g;SBt^d%k][cz
+l!b,]2G%WEBr3Nq@!eTQ]!A&hC9b;cw5.fz^5p;k~E*($YSBo$-9T4u<Kffb-$^n*mYA!Whu.w_des%HEl=2EZ5aLKU?huWA.KW
?SBzfU*gma4.F?=~3Tw6F.<5y2<yGqYb20)ap-;Siw3knbQ:+Vr6V9aENctXFdj6fW;dgZ2tTu^!3emaaGD'T*Fo+A1zp,$^Ly%U
?Ep!ah^p24G/Van1+i~qYya_&Amw0[2uyQ@W)IZ$<v(hA!f/@670R-[%b$v4,9M3yR|JAmds>,_l*E0ZUPQaC];3S+|7srpd?_kX
bW!@zz):-/$7F^SF]hKg/T~=Fo9h-MO1uMfV7sA8s$hN9:o!L/BY/&>KikBo'XeO?E.UhZP6fdO>)rkRW**is'sPDU,^o'&Yc|aN
x,[r+u%8oTz57*X1(8w431uj!2hZ2&HA:uJ0&/tY)-%Jag2y;&Uuf1NlU_dBGJ7'Hix(UrSG|I*?LW:6hFMZycAo8UmD_RU1d.SF
iqJ+-uRDES>Sp~~WvxEY;!L7ePI|&V+/W1!T$/q8bbpv!tv5^]q]8dne,_qaC,DLcxa?k>:8V]E1e$S'%W<Bx*idWPo[)r&L1Mbg
y^dy*a^?Bar=pG=gUl1.^Wj;4L'.lo2nXTy[4skoPCL13P!+@hi!UE4Ch/X=JUurO:dsgq''aUYeRMEquQ[>vw|6kNfodNPqoZjN
dc!ppgMk7RynK;mH;HlC%7rxJ~U1BVymfLNO_!qMF7wcV04csrtY'PnuI+iKO|h@dr@YY~)nb]S&7v)wO$F;[XvV)0~+',XU074b
Xl%dRv/([>uewhUTmL2aEn</Q8I9uQkzcw;[h'[VUA1q'52,4FVTQ^fEKYr7n2l_opK94E[2XBZZV+3XVb>Ovk3JZ3Vu]S!kja[t
)gc$(f/cO|S%YaHQ!5u*Q]->3|8VIeZa4C!'UXB5K'Vc|s)Hz@y;;]b0Oltjx(lOKp'e]30TNs6Q.~?>-Q./6hS_~+AClicC['hM
Q2fl[gVr%F^60!?1Oa7,tHrjH]Vbi|U<rki=[GgD7<1A8FO2kQ[+MYZ.4W=/kZ+KMK;BR:3EFtV'T$+B]32l%>MUyv|Ra4=S1yo*
8AAzwV~9A>y,t9Do)-mf~epJCS:4/msR/CdgBas0iKeH78tQ%Bf@Yt0mBe]PP5DJU19xj*q/DsTOv4~,Ug)xn$7?[fCQ7c6;478$
vex@cdGfq$bDtvkaxeTl[fez[H&6B+1RA%vUr>XnL~Y+ECd4z,e5Ba<XK^;K-g;ChRluOQH$BY:E+NKC^pR+N0S|%?~l961XfV6'
r*$~2m4i(g'gXCjD</]$A<V=RW(F-ivq,:$xo;|-:Ie2_|Fh^0')7sB[%N$wRE0U~~4dN:$d*MlpRg)lfPWNrM1pj&fywu~Gyw5D
PpES5s&UCszLZ%RD.c3a]+M:,IF1&YAw8z(*PLX0?'?aikSgl-)~|f4Kr0gK'OJhv6vn;ckizY_NlKAtz6s[32Fp1j;7AU(jV*QX
8R-eP]M?@8Lee'g03C%P(99C($bT&[-WPF%+U;_hX$&DSq&Yp,Y4.co!/PliB;@vJTe9F/EMTJTGPw-uzHdyTfDv+Dc:YiX;7p4g
(=Lr8c[a/eZ1h44L,VXjN?Pr-uva*yt2[WG$MYMSEaoZA!JYIth)h@?U)8leI(_N~H1F*NegBNeY:x7d;V3kpP6M39-!x,lz@N'$
[;VE^IF]L@_BtHp<;i9QkTTwma*Z_|eU7?;*I+lPt^<OA(jUupTiQ$qfJ$4ogE~n7z+6Ma(ts<Y;/2E4p2/.LSi|fwvA'$a1I@C5
pt~sOsJBh>6%a;GJFVHlfqAiLr5@+;azLDDQqG=:M~klf4).R9>?d_BJ6;4ia%HJqdWwaRJrF4'ywR]W_Yd(;*hG9q2M?2W,Ucjf
tzN<9oj!l$>lno?A=!$+AQ1Z8A5;5~p_g5IjoI]|M>J(F'~b53.TnQy3H_lDo&W$*~QhoZ>U(xhPSe@>~:yBi%rtq'pe:CJjf<ON
>Uz9yo3n'^~?.HcfAp6,d!K:?eM.cLJFtIT7m6Kv&:2@+mJB6tK5jhOIfA>:(Uyt;G!MbtBiLI?jARL5UOjjpm-dNj-$*y]2v6]V
T&YtqK>ePxW_rDC2939]e/?xx|/=T8Lt~@bgbt8]_ug$x>z]S!BS31bEq&h:RqFq8jk<*B6nnd1UOBKQSzr@~UHEX;%f=!xApFgL
O.KsyWZg:(&GUVSE(YnLU,XKCFHEQi^|evxG]=cRC]h<n7cT28t/fSe]dn<$]=-p6X+PKK.86uI_l*Z[C(av|(nXV+qwE4CcL9'Q
NEUkHe,49613_rY9X@^0XGwLpQe?%d&wzNQ(y'Udi:;rgv*G.jRO2c]ggR7m.P|]%-$XL44'ti-RB%!!w?byc>_NRw-i97)G'Pk0
WmYYrXlk1aT_anRDTk8IT)M/1_atrB&R(LqUlvEQS<H47dWjyhI8Qh%K/_n>AiIl6vtY5f.0:3@:LZ:O..4%_W'k.FLO;@)aN7Q!
hdH>.m%YVp$S.GwNRi])h9uZ/%K@w&5=aQ)Odv$Nm+s'q10p/N_Y!Pb&P^kQZXgr6U!4_MM/^!V&pFv$+?GXS?8N*MVf!FJ%fq_4
I5?]lT]K;I&;)[v(.suY3zI2FR-=T[-5$jyYG5;AX3*nw's.I%6CV<nIv~]kWOO0~QN4lR6!Sn%mnWi3xZ2ZvJTByepoU%OLSf%@
2pTNFImZ(!fpu^2NNm2F2~HB'D_9Ke,h+h=awlQv2)(Ll=+r~7&Nv$]bqd[Jztel!U<[?FzRTzK0S1)Z6uq2yw'_?R48+O:OUADd
7J3NCDU=GKiZcD1%_%0YwnaCZ@6eO?zy$(EyH?dOz594bIK[H!B-P/$bJvy3$O@C$Q3l'H*Ag4%D^bZSJ|EFJ+dJ,s%gO@QJ&==9
hRI*B)rW>[v(rU6:~dfzfZi?d@JxY%1Z>I$]/g)0[?H:W5?';c!kEB(1hH*iN1Q(X;(X/|@WC_nCAp*ugiROT)m7I!4~1n|y4_P@
xY+pGOy?QaR_noi04g6D+$v0,ywlzwY|!Yu;Ax*ZO$Er~.F4N)z%'g?F&,LN,vt%ihKyJZ<prRcS&Uo/OyHS4jx1X;MGP[FPJuYT
NrhqL<.YoS%f?5=|J'm]1(p[n3AIX$_lYYaL.<*Ev,N~J~L/O*ijK?h&OZ7T8H_t4Oc()T;wc)GP4_h$s1-?osQ8sQ.AfJWj!V/I
J'b*'[W$R=ytcC$V=+FQL7agiZgGCoYU%c]dRSyDkE-M)cQtq~B/9<R,7h&hha]XRr(pa(K%=[v~VNjsbSWIT0[mz=d%gyRz-'h[
@.T]Ob]c,/,kg;je2vgE)E4q<&,-WXBI$'zc-Dt;V?1k6dQb!;j7ttA,9SF<[%H$2TWSMN3[bje!%7h>XPJkC0:v!<99zV!8xNHp
$a>z|gNf1ym8B&8rgw8R:PA<w^lnqJzAb4^9kkTthYkj&UjQTMZ4~jWaYgAi,hnKH1MbvsWouu/M]QN6G>P9>+QhsT1a^DZB9g^7
a_]aQaK=7t+vtej2rlMuq8Q_BQBOh!Lg=KzEjh![[d*wuHfkfoSSrh[|h%5[R$qfDNr]8wrP+G?W?rYw)rh>=&7RNvbWn!^s(j_m
AMLB]?kA3.L)49[Q6jl$<G%3FisSQqw*d4tzo5*<A?>%p=Mn31%FhQ[47tPT*rNvB;)Bk(i[Yye|2D]>d_M|ytY7mDPM3ELgC.:d
%A&KnHYatpU:2uN3%It0c~(9.Lgaiv6X~_Wh9c1AJM%Z$/t,EWM*-'H(_^R*X^YkSLE=fltW@(3fZNx%!UA!~%uW1Tb6)*(JA$<p
X22snCyzY8wX=za~9H/BT],GpXMiCT3yY|)mmAL(Hzyw_UAn%7_vphg^G'+QgNk!nJV3uHoh3]2~Y_ECii*hgSksmVIk0t2gtz*)
6v&wc<+HsOsG,d$=+c;&,EuIDPqNMZ[@tG%im/mLgW<R6D8L1(@Kx[@<0|d,/y&VPE8DyRrXS7UKLdIKPB9D8YB!Kt0;b-nk<,WO
:)ar4z;WsH?%.QoI0bJJo3pkB0N'TK)M%b[@1C1=uV'O^gP?ee&XphZg$;?dG*./I<9~^'egor6|Q<dm~r|hY(,57H=Bygr%?H-&
[$8;J&zN<@nEELnnmE5jobvb7o&1!hUD1WvFQ[b]T^A@.9yEGXq+T@8[]|yk)9Pb4(Js7,Pq&N[E<GcWbh.Z8vR3,4X(55.')1G;
^@tUnJTmb!YtVwqhE7YR/J?tV)'Y!3A)+[$r[RxkArct1830Ru*<HObexRTcgdHLN~nwEp0Ct>%tj30_,^j32-BlX0n4HJej2Z<u
l/U,LzjbwAUVMH|sT*Q0*-D3S-9]4pi5TH')0PSj954k*oJxD'a5gHcA$rFt>;]@-razy_hP4r$oB-$w),g'1,xl8bJnovX,,lKE
wW.+6u==mDea4hNnTp!C41AO0,tv=6l-w%Mk;KSe)2h**'/Guh[l$SUx]CVm^7Q/,|3up?qwi1[>A,,aJ&(^s&7~C1E4m*%Y&Fyi
&akDR@5EMIRc;.EDj7PcCo$9ek7@t|8bX9wugF@TM1kG@6_Pja0tMAMHrCE^xjSOlUF2H9xQX~$HhRh:=i*X6*2J8VuPj/R@DEoc
jG*!6Wz1.vy:Xinr^dke=pE@C0M;3+%>x/cUS4qm!YN6Mu?O(CFUtY9Ui'YD@H:FfP:r~2Ys?wN:-XT.gfUC<2d(<+qSy$dC;|C/
~XMH$yg,RpxVGXyTUV(4eB(&4ZY1%qzP~H8/!IQ-PUP-@DTN&]1@NLoAW&;Rep5>oKeWj]tRcPhv7@KX-efYv'o%VY~^>4NMS;3O
?N)[/oiW4Jf|~$]NAVhp(F,FULnz6nq9@Nv;O^<x!-h?B,Pw/[1;97p3ccZ_v3:jf'&w1X^^;-O^qX(u^rlB|juTd5-i@cx4eV>g
&'6pZ:f9pzw8Y3-2>zjkta)Kqqd3<nF@B@s?7kvkxM*PEwCLxB8mY]_+b(3M?WTF|,c~jbCDxlJ8tW731t([&Ha(j/G!iP,YX-cO
f7jB)P4S,ORN-FFc_'+R1-TyJLwquwxSt?u3mjro/w0T:V]])=;^Ewk5F8pasobw^'THp0cfRY7R,7t@&[%(P@;s|]bO<=-NbvHm
HJpv%ZZrDkg15gUPcwZCf@e,xqB<6+>;3;L[]R8$=CDqsfAb3&nC1f4|lgo:96-P7')M]e-h4795(u)is'bA8F=[a?fg:aZSXb_o
0m<Ijwn4&ZNHxRe119U8ufE^u6aS0_0r&Gb.9]zNysU7NSnKjL+~JvRS@4XR_H5+GO=H<<,:J+p[KU1$6[g@)^q,ne@@]JtjJIoA
|h<X6qqJ/JNP3u:(9Ue+=>3G30@o:q4C4scN|;|(tAugqXy/efS?_+-qq5'ocnqJyyM!os'd(yOsMF4=]-ApKvD<YutNZsCm32xz
E|yu->Zo8QUf'.-+BEdZL!<pbDiE_ly8f(I,E@:cge3=/A~r-a^9vT>s7KY!N>5eYp0@EzM?Y~+$^|Q%0l5Z(g7VUge.JWU!'<Vl
dEzb4Q%L8-CjJ$2J/Hg;6YboM[>%l!I_W,DXI8O[~s3vxp!kXWX>Hsh_6|>.Ff:@.3k&uR/9H?:_8T*.]Ih8$b7.5Axm[O,FV7%E
cd6w3/oxLL,vC6iH)GOGk3&Y1b_H7]P2v!'>rp6eaGF!5~lxZsTH*Sca*D%K'AvX&Z9Jg4Wm$LYHFmg*9:~+%o$J!+$Tafres(N9
.D.vNPj-5G!u<su@*Y)],@$9Z1V^L4p=r23R)7^F;[!Ft<CPPQ9ciP&'LD8>-x;H&(VwZLyn/SnXKn'K,?F*+ZIpH6@qrOc_Od;I
ks[rM&-Najq8L>b,s,vl6&zVPHLV![7~uT@'tYeM8o4qy),6U<OUXz*A$3tH7'OU?lD@P)BAt/M~D=(E37t;&RzjU-@|az9j~IbQ
Wh6cj9,L<i-@tL<H-@5W6S$<3CULr98i$QP_]GN4-8eD:o5_0%95g^32Ecbz'Ab$N1rh=^~w>/vL&WC~V%;=(N;T/=mZTdsV5m[o
Y5T3Vt:[pDw9dft+f2Q;6$S%oo=1?9WUA-<,+W3j(*t7o);>un.1jySm,tB.W]81p'Cei*GI0V^qOtWtJ1-]*]LO=&;]t%Qv8Bz6
BS*tXvTkv&U8!HAv$08,pZy?L_8CUdmnVf,Z[qrI>)D?Loc]R<]U$vxVvq.x|eH-fL,rdv?oL]M(.[B-VXixOH;m~V]y[R3ae9YK
3$ce7.jQwd%R2R_Atkc]c<.1d+NXyt4IUOlf@Y(p4|I'?NQS&eG=W4lu4c.3Erh;<4lole,+Mjc3w8&(kTEP8M8!w|5U83gV52QW
vg6BszjBtqxZO<I$:GW3dc!o+^rO@UycEuQ22T,|?R~idiE?esM$a+]oq/iKI8QESeI1cjnp3BKG)-me>skoy9/Kl>B[Ozj%~xs!
e*xhwa!Rvzfa:]kG<;u+zK]vt*b;_'N(sUEjDBqP$J2.TQ|Ln.Jp.vLA%;PSG/K&7%7|efEa(iGM]gya1+re=+rA~iwCG3OsWVvN
p=32~mR!AtHRE5N-,L=(JQ$?h~iXxR?$cB(4<*5Q?]0Z$FGq!9u0RXO7INjO,)1XU[Q(-Z=6rT$OPC%ly4=RO)tNul5hZ%x[CoIv
MbsQ&eWrlU7AtLO'9j2X/CJRi<n+DOi|V1dojyeCneVP8CzCHcP+pX:$)HN~Nmfpw^$(cpg]PC8xwytU.Zb6UN9t$n]CVp=t$5HA
IJc7h=q)c0/V*x7g:|*W7|'kxJbC6'>k|0p@mvDY7]ExKI0?@~-]v:s|4mN6%AE$/5Z!^0<4_twEF$FA5*PxXy=plPef3RKoS9os
YfxCOu<$32DX2GnlJ!]~dobYg:S=F&aaw5*N[tj'B8P4vQs:GpeGa8mJQ5^O./Cosk!|bDpl.jMvH6(8KuB@EQLB.YN8TWW5J<^T
s$=j.Y98Q&Q!8/qy/D.4jwu:duhee[(FX4E4~du.P]_Gv~btQu%,qHW['jfZ:NnZjXhPFe[0gmjU!,@P!dnkQ|2>>pDgN3@?/G7^
&_ZOiP4rkG;UdMxvaiIWPLq3ieBaOVpJA>ge+&L/y<CC&o*E[1o-dZG/?I'icigDfM0b57g.~6;*/(y$uh*e$XE]d69<)HP[-*-;
1OZ/@]ndl-n:PI,=NT'.=xs.r|.=(6&?f$Vg2G8zt^'yHsY'J,a(e|s3G;1iF^s+9S9QV5k|M(ns,@/@tGk9jW4Rz=w-^[dg-&3K
!SI9sbRUs%k%+xYe0Bg3^H?QoD@]~NJ9_sX0/Y.snTV>sA*2VU/h7lw'oRbG[Ga*~lf:82)g,hZ:AX;-n$L?PG*uUa=4bxy^2$%~
:ydh<mWLK&EkRv3$s*C|nhzOcB,zRb:vpOA2/YWVlWC:*m;f@JR/kuyC^z-s<!V-5FR^N~!&s13e>KYUGt%O~eZINBCx-@)|PuEo
0KxwcV.hhY0?9N'_7wBiEW?gfFbY%Uck-K(A5GwzJfjDO]9[0s,'B^hP&hNMeEw(Y|IW=G?qIgYQ0Ti20CwKVg]b:6Az*X';iqjb
iv6%5Atvg1.v=Majcoy4rtbW~w[ji8Tb'VrA'x>g,Nt%vq_&L;DI&KAQnK4)-8rW7$i;-v3S]46b;>_meSm&kF$HE.o9tLG&5p7J
;wH?-c1ZpozZwB^NGVeIsbMAES_)_$RPwE!&,q~7huq0k1euPO+ogpd<eS<ZD%YP)dQwZ29;Ef!d0>;XW;Nsev$3qrpkp7kf^p$@
/OWuD4cVo8?:y3gk!'Ml1%q0(hQ72HCvw!tEtN&/zXU,t1mVtj!bTT8+LcP:yr].EayroFVq%P!F0.)&7o)Y[aTgkg(]1qg.Qfr_
33<<Aslda7;3k;KNC8Mz&LvI^[|qBXvO!]~AT(Zzj:&I%uG<lU[Ac:B2_gy,6nQeE8l.W*8PxG8|l)&j<uOfZ$2<XE*H11[QD%@!
CCN$X-sW]bwWXRR/dqw|k/$(peOajXY9f5/dY!4J':'ATl*bB$F/5b0k57yWPhAKFGV=vN*Hf,CXLaygry,.M*4*FG!ix(Q.oy2L
gbog]hl31&UjLwBhm6S_(3V%)isviz*BS7/~~y_=eVrF<0($^ABemre5~psg5N&6kcZ!HT&$*@<IE'6JN,8MX&gM%N>/Tbnc*(UV
gVG.0f,8XeD5=5&S8L[Kb|2wpH2krYq,?$gyArFx7f_2HktZyDb]3_[nv|L82)bjF$WU]=.!Ti6YZAwNffgn1oZkf.tKZ=%g]J/e
U)<Nr0cZ^]b98mF,7ooXJ2SO>*upB*baQeHof>WsEVrQ~dQhCNnOwjLW^I97^D!96L5W61S@e~5tmi9BvG>V?*Gh9*NT?ck_+l1F
|b,8G=Ih&KHxW92@SmQ[5ef*CLI0VK4e$0=8/7h/g++I']IlkmQF%S,Mx'H[oi?LQc27t16ozo]tJA!SaI']lSu/,65uRsVU*cp(
>!LP8>ynR,WUdfVS[@wc;cUI<@FDsU?dzR%Dpwdkb2w_glFH&5]QZt/b(ng/6Nq<F3Mx9G3l(M6!u|[Bh7Xh@S.ngIzku<=m3Hrm
()XxbdgO_M>c3h3Q5cP=97ixmcg!$y.XhXv3)@[:EDY7%)jTwYhdkFGEzNB$5?jn*3L;Lw-qQ2B2Eq_EEJSoy6nNlSXb0WeOSL3t
E/=cAg9x1%e'/LwEkc*DX&zJN%+Jo2(56=p&$S5==JuQr.XDgHKS6+jmWv?[fq<JVpg+jP)3dVM(xl*,sF-Fr)eLUc+QTGQ:|*Y?
!<h';)EvU[5JjyIc.a&8X9i!3VKLJN@FVSHsHK.iBuk(0PFM@-F0eqep^;nwD3LET37mh-g:]M'|~9;ed:V5dnwbYsP!c0Y:zj[m
RQ)ruw/Yc@N2%2w1ADS[_6>P,h1???Or5MsMn<0z]&Gt?SFdSte6BHio?MKur1Z.Z4?Sq*nnLs!I-cc]5FwKVbY*7:0xz?y.z^:k
sO1~c*&lq:rQSrrxVl*);vs)*~6c4dtaucNrkxqI!u:3C3~cNy8@Cej1CR!c|<ep:lXI3Nj*YnmFaT7WvTm(WH9mX<rbifLz9<r)
VWAR;%73xLcxE<d0jpPhKJQ~~)~otxX/A'?FW'VS0tmEH?Es*eL'+yJqWHy]?]|-f3E4n!y@y00q=]hr;JZvzh]9[8ggr<]'?_U2
!EZF!7HA0x0I./dOM~cBa]IYRTDu.S6ZjHx_k8IpzKRpd)AMETnCU8?]Q2/no_NvhU<o*>GNw>Wn[TwsiSCBmNC.x@J~B9O,7k3;
hG=$<XQN2v5(+).u&9;$Uy?Quv]:j8v:Polil(yV2b='@P$0,bc+7J4WpGfo3BqjJvC5tC,cJP&)DDR[&bQf_.E6+IDJ];'z^N/Y
f>=51S?FVk5mW~62R>1H|y!Lxl[RU?1)79e=p4Wy!1EG2~1|.rEAbf_R[4N^f_=uXqMpu|ucpRg@(1a(w/bUsUzKl<q<*ie[8)66
fbs;P?-Ls'd-8!GpdNzM~axA*,q$<rT6EQ&^1Yv[?@^B~X0(-op;AJLAS?AtU]Semyx_0qUYI5F6S-fHtq-/BbZ7Q$n[9QdAe-L/
_eFd=If=J8N<VIaySk=|158STm0.Wd_*Jy|jo23-k>&U1rgId%O?oLgN7gbuW~I@8JXm7<l-@Hy;PJeZZ4M_j!B3>z=Az,ZRnF6*
=RNez2%~tGQq>R3A<Qo$LEFf7n,<BIPWmGoQNoy36U<:*Baqu]le-RU-Dcnj/^HcNJ-|kk,MMH%GN+J%6zutcz01Iec~09UJPF(>
'(lkdag-f99K8E!FPm6OX*12geeCenI.JPU36G_6;W$$OQ!j^$NB+>*x/aGy?S+&]<DBP<WtVEyl=.T8D(h'XY~WR>mQqL5@F*1J
R?]Gm&03%1ydc)~|O&zh18DHhTF!A]Bf_y/jk3~<K/7jcbnb*eab)Rc<x27FtG?!af-7/.@Jv**pHoOaX*J)EdN?VYOZkK9|Dx3D
o%z$:'?MYFt]g+I,S;bsdv:tN-vr~b=_m?E~N.^oILy04E:Ty9$0j!4sjBhlyw:V&rbHi0SB@mqH&;Qm+7xvTXMANiYF/1:nDS&P
.rWxSfcC3Fjc'aE*F;Q/<ylDT9Z2wK~V3C)S_M3Y^XKa-w9ba)A?<=yWrG,D-mT+OdpkSB-[M*bVpM,]hZ_YX1<wTzw)Q4FQs6GV
OUjUJI4~cbfWsqsefxiz11sev0Q5G@*5U/EMb7(Q*1CXnp4gzvsET_Q;Haxn&D:z]T4|W9zGy0?Wqnx93nMV$|EEH/X]'e&e6Gg4
O8EXQC4Y0LEL+YlxVB1RU0.oLhXFD4:$Xz$,VlXW-Zmyo[~&GU?+s7uWjc!52)~V!5,Wx|Nre%<6&3ew[WM3[wCIFtCEx8OI1%zg
*a,X+/4QJ<@pCPAfKC:-eyq3+VljPHzxe8k;)$%a+V1f|8aY'M:fG7R(U|].NAh/rC.V3xile[t8V,sS&GVNx9/W01BCH[,$-y>V
Y4wKEym7wCeJCN.H>hjW,o_]bDZI*63F-y|ygs8itK*!)FGQ_GSd)Ce[30cutl3yElu+%kF.Bp~+%m66J)I:6U<BZ,+fG:i+s~|[
9L%@I-J?oIOevRb,^3SzLm&Vxa&(d]WlU<EK=jFyHL-rRXLJdsxEne&@]_1)CFascYVa^x?4^Dm7/3j]mf+p;$a*/kL,DxT+?:(_
1I%Bt7hLk9|0o:[FSm^0?F+Wftok@jO7*ItoQp9hwV3tgW.RiR[I1s@dz?Lx:r4;;WP)_K$WC-I51bMQztwbE3*8sXJ:IqA?><0]
t8yn&Veu=6b_]&fZLeVOpuWJDG$*g5-7K/?>$Rqsp(BPCgC$s.T:<'0i&d9H?$PWI<wP9yV;+8:Jniuz0B+8124H$J'o~=K$W@Dm
F6)8f1Vi!ojBp?)(k,=M^34jMCO/]-&;g;@IxbiF6,gF'9iLKQ4(]H@4AR!5nbyi|nxgqDP0*d?3NBNHpej,g-t_[9d[bRb2L>(S
A(=>|lhHre?D>OmGSbUpRuLk3Aflre[~so2oFK]CAjHLx/v5v'^s[48MScF6V+H'8H7RBqzSWIp-H9!uKOVK;@6Le^[?.:jrauOv
z/w?;wep]'AmY=u>QOY(1[!fz1gXbJ7&RFInxvB,p?H>&R1YPe^B|k*|NdJ?gha*I[@o1;u.'T0E)0dY!D)P6Id)T-FHdl9,w4^?
*gs'=c6N6,$~.!mXEy_/2oi8Zv*OynnXVVhMo1-!>cp)q:2U[YMc4LkJ$k3*xR7sWZ+Ja?Ea]>vEEHCiE)v8%whCm8:>mJh3Dd*$
Dm9=~v1RdASY@Xcs2QsGMU[$FB?3Y$'TuBn*H=aW)l3t?&&d:cWE1>Gv)/PQuc!tH'+yAw15m3xK?;-%Eaupjt^P/y(~lum@%:EK
MCppfeG*P!qs?h,u6M1R!I$28NTBF?4pRYMH*KavR@@smQ0@j^KsvCi2oLV-|VvKn/w||/4tvc!:Xm0Q?5$/HuVV2:Y_-/*G:;='
2OY*e+e><?TM]JC;SmZCF&B[G=M8?X.$gjI9R1BYZPD+L4j0$E4!wOfc<A$DDu<0BZPN@Dmw!SrVreA|$%n*HJ7FQ[e4zF%_l)dS
Qk*f],9A/T=TE]TXZ&MuMI2(~[1zlHju@./ok3f*Qasq3YTS9elaY3FlJuCGSc!XNXNq>w4R1y9Jc@@VM9iRzE&K5<aQk)_%@!bn
Ods@thZ6$ImtAX,i$+;$rjd=tZT!$z%0xZTtnXY_-lMU)G*)<(>g._Uxe/CFEg/tg~&0D.E-n98whP(cTLltUzl0F**?'>xQzto)
0^3dt_Pq>q:;&)%rp:0uxb?0ovT$Jj:;tz(7?uevo/(bfHt&y'ajueSIic9Owqa$_qMlM/&,@x0&&<eD@%g3O$/y-5|C'gYR(iEg
<vxIDf2,7CWdur!$&!f42[@BUl!9qTvIBhKM&r')PQRn3:BC:5d!y,?*;^k~F.K4jqLO+O8H%V+CjcpHXDbH1fQDm1QTFu!4|ugt
Q<z2]rFW-aIx7V0./u!p9pZ:G1vzaDN2ztuS^A5qNKkFpU)4A[<mJ)KP+Lk_TS8Hrqg~X126P^i(-/jEy<if5ZMWdcxOx|:^%EMc
y6gR.=UB'1<6MMN7.OEDg<$[)ZJPlX+kdmJ(>q:l%FdhIu8[:-2~!nOgs>bG7@'yA@0^u%ukoPUQzuL2:xaX2snX'5S~7mG~Dy-a
W6,0/k^][fl|8D/|5w8fcqU0+V*kXVM/1-xMXM3Ux=:cw's1GtM=iW5A2t0S<h(43~HJP9|kaUn,&8Eiv/_7LVRN1t>)xmF9z3Zd
!O9ppPauIR]>7rsGt7sQHHkY/ii:e<BC5t6y(q0V?9f5tt'8aF~)i9d(N<Fe6y,xVQDF&6/v_$q9KDk*95$$F:7s.%4eeo~CX'9q
,;a2Ba%+hZO1wn^zY,b%HY&?LhTxG'&fJXH^e1=Ps^HjL.2c]LmwJe4/J2H:m$G5+1e6h]h9]/d0'GO+]_oPAB|v]U^AYj80+~++
DmH'Y%s!HqE&(zmmoO[7)w3F@'hxi&n=u(tN^aO7nfCAO/8)9GhAukULc]2':pKQ=XwDTd>wO5Q8)ZG5p(d)+sF4JM^MXi_i?SAB
4k|TaR)6oQlC<bx*:J']$[%.0&|Gn>ieIT,>r4g?Rh;)fUnL?[@SSFxYrDYNL(+AfC4(JBG0uo]@l&?t3$(NUFQx]gl0Gi,m4|6e
'H<-la?P-~sPSOvjn6ANoV!cX$o01'*wm!U1Xs,KHMBY9;.4yi8iaoWt~BPh'0ECkc9[L-'Qk]1Z9EL2A9Q.VMZ*'2t2M2<^PUd8
C>R;khDc&ssX5R6t[T$_XYax(-<P%t]u-OWm0OO)c60yAxQY~Ueg4ShdW36Tr1aKM*4;W8-njvZA&_3AO:.-!^cPOPg1bBkaPf0<
!RX28qd%M&xZ5o@*XaahFYehbLeYr|W)al)C)NQ0jSlRVkuRvetkJ;%::SJ'YHC7~a-;]5yM%wXRMe7$R.fJ~t;__)Qs>fQ!)LUH
X%Ec96dE^E%]cS@UFQRM(-iLGD_nflbv0HuBB0?rRn![(@D5tA^GDx>Z|/b>]~iu[e]:WjlU~Gz;K$li'-p3zX:jxiJS;<K;$HZb
Ml:%;C_=hilvma^^dJld[f0iUN4-.ADFlcuLcow)oWZ_7uxWTHp:xx-I5P+D$60dR1CfJqP[@m|U%wbsM_|8tSBx_xz,)>;D^tOq
q|l0u1'sGC-1!oJi/F36lsCl6'G.!FZgABPfzi7>VgS8+Q9G6+?O_Vkg@/3=7<obU&*)|;NC<rh@F~8j=(si8u<9QZHT|Zyg@iPG
X:^FZZkDg'3O4LUiq[@8Q4O:'MjmIJYCu&uixG]VmNs(>Rl1bbra;SV3RAe2Hf(vB=jGMMU]l*Hh*S>G,~WP+RXu9|6b;VyaMCEV
vVd*ZnP>$q-M>$z=c:i;@uC28So--ME_NBh/2)zgZZ$_VYmZoD:~m2+0/hOPW/6z2.rzDJjz'2(|e3(P/a1'@hv=CZ%!19;Un/)@
p'8@uc=eG(%|pmywmd:*cA|MO0V5D-|Uvgg-ZEbgUyaw;wkqq2~Cg9GI,9gvmv,i@|kic,FTP$(U;BzQjg>ZVCr^uQfZ_lDKx>I6
@Ygb-GCgJ<n&KYMW]r(/i<?0B0>-P|J;rt]CQ]$-I$kt+.2mj]1,Th9y-sOUtR[2YN34Uj4r$r*.VUTO5tyWl5VqV'lu:dvkI<V.
$6rc.r3F~sGvmR-2)=EIBu,a@NM&j+=rfNhbW)c&G7cn-Wz:o=Q[VYAa&w^nVS(y5yd8k=m9N9Ytl08quq|VGMUwhi|z>+mSvA]z
[8bT]>o*:[^YzP|.oy13][b^|O~18|6jdIXTse27)*Lic5$)/5RA;E:k*rIQ'W>m4h4A4$U0swO_iwB>M2yAV.,Wgo1nMWk5+;!e
eiT9n975~(yL!G7j,|MTz-s~<n,:8C<q4]>1_5[[26'y(.4G?~5wFw~uT7pDeU7GM'QODiGE;ZtS@UV0>D_lqw;4LSg.ba$%DDI_
q0]Gu:wWG~0qqrVVrc,o*M.!(J)1Z=MFvNHPn*6!&?pV;tcst6:6R1Z4.pgJ5]<Iu3%=Tyx)l2g1l;^NN18tHfz>WL&~-^^)6joa
$m$ogM,M]_0UB4)-xb9lEq<In[Pj~A6GmQmTwg>p46liy']UfJ_CQ^l(w0^R;lJ7]+*Cb/>v~Rt@;z>.dwY][dQYcG^U~NiM+h?7
YeS(r96ydUHmv[E~n,Z+1L3x[:qHAFPnRl=FD&7<n'7=%9rv|Z43~.H39X_R;A+htEPvsT4;sLjOCNT_v431+O2.IXk=Or+FX.G0
iDXjbdb_ys^Sq__6&VOt[4eea/!/^ycOu3u|GYVa,2(74v/Akoh!AmTL1hX8E,F_emh.dga4dVHm1gafs|4r'T|Vnw]FNO&ws3e9
5@rs9)7~Dr5w4K[r>xiz>0XsH+MpNvmS&m|7-^':niHX</F[*3Qos.:;:06mvf.B2K7De^pk3X/mPMQ~mgPTB]|)70K<yq[(=z:M
bWrx[Sl,BjN:2bDl|]*Xs[&k7>RC~pStV_9'b=8kMlST2me)'xccz0)bvGG!cJZI7yMgE;ZRXoZc;5^-MR~>.)hXnzhF8'nBc596
]cnq5v$un]-QMV%eMTQDH~etjmZjyvt|=SG=CnzuO9&[=Ok^3Mn-VloJNG+=2~>N@&pJ_:yFy_QlMKN1~q8GGF_ut/FR7LBigHFo
9ck-/<h]7?iVJy0||QigThi8eD=GT3SH>+^5?rorhOu/58._I]BeepE1+0/xA0~9|MWQd,R/a%MWL@K4*8.gem8'W2s,wr*%i>pl
Stx.<s4xt80uj;1DE,5ncc;'B?r]ln(-%Pn0t@>A)y>tz(ssx6X/-U7zOH?!wt*6i:TL1:<PWxxlj!MjX7kwLy_La.$(aV!kS0/e
)ryDCCpi_MD,eLG2w0T2DW@i~A,M@(n8]sDVNdd$]w~'7kEZ|8Z&*(QT4&Z^?~l]cuC!a<PXNSV_!V*Gm4Pv4BMlCwfIDLE~C&hI
7nwZbx]zh62WIdep6V(&EC:+S|Jm:v0P|3L5HP=yGDAq^-OqZ7+^7:so_YY@Mrk4?3n0+9AbB8Hli@5LZxKNE!W:v+rAE.yn5NMq
%mO*j.P?;,uSZQQ=~p>l$.s_^Noyo*SP|h[5i@%kWqrYeij~%M&*qcn~'d;,@qVl=3b.(L$w$1wdGb'[k5mzt]w$eC.S(+Q.^X^!
p+yrm~p9%I0e[c22y|h)q0[c-ISYgP+O~:D2n!zt|kq2TzeP.JznbC@GiKGb2D]cT_xY^T^YRoZ703Au8Q;!2XzjCCA!b+[B~O3j
ez,/*>|f_:.5KKcnLVdNNG5!A>j]i.Z;NHpFcSKt)Rz@b*iSb8Juctj.zY+22%A6r16nr<zvR*=uB_~0apE5Z@sBmcb+/wvmFOZZ
oOK?OfO]IY'^VxlKt^c1/6jn;>u?2)w0I39cF?rz^:yZKmVDh<0;|n<@=Nf^mr4J99+d;D+X|Beq&*$8OQ_rj85K)L1Cgg/-EI~Q
D6OlEKI:4kbAu4wT78_q^lm.,PqQ4M/gPaIR6XWTE=&$[IYX_Y$'8*[^8*yqY8',gV+UYU|pQz?d?,!V49CoG(ZmmhoH)KR2IzSX
Gql'9%if](wMeTauD]NY-@71.RZbbASt_senxXOAs3lF'[s>8IWMlFU;$hF%62UKH,ta1=!7?'S~lcO/kHxR%MVV[clh|x+<Lt:^
^DPWPZ*rEGX@,C@YI$QLY43H'6yAkZqHPd[+T-0W//lEohSEuEIAV|7k6l7N<D+y-,~y2G),I6L@U3F50b~0/u/CEFzD31B>oi2t
OG,P()OorD=Fui'0e~KJhm*7'a8y5!3W@FfX_otYN.K/T0JO+F6^eS&K7B/V!-?r2^sR=.2LE@el%a<O^eRNkZ8,K6@omvZ<W00V
a%sf=.qpAGYH$3LCUsUpq@/7E%p;~*[5TrY@ed-h(?uL3~b_WBb2!:CPTEoq)E=hyHVbe.VO<GL0d_?fDa<1J*H4O8J==BF;T5&r
t_F-?AVSYhzPOruk[0^SG:/0Ax3d><i:AQq?_kQ?v(B2]mX0z<5MC!>$fuT9GLx6Zo_(<M=iy~UI/bQ3v|Or8|&ae|-M(R0Z'xzE
4igg9'ziat[$/$1Zj8wlh^whU!NBO,o/v>%l?k<m3&Iz05JUMF<Ma8?*j^'JJ(PkQYz0NX-%^*B|&f)c2<hsn)C,59Z%NpOk1u'H
Q(GndM6p[m,*h3txMi/NUje@i!S*$3;kR2k2MiH:kgxiLrOt0hKtCi&L05qUDD='8Md^Kw.fAO]bY@p&*u,M1R^]%@cMPU$j;zIf
RZl[S*)6RXHVAUh+EjaJDqslH<]:6^V:3wSBs82k&yH=m[9::l$rNiY7)L8nBd:~<Vlm/u(J~S]R|*baKed'ChIbIMduk8djI;6P
||fLFceKvEwI7brXC?4DPKAn!dYFKGgLxQtfrB0^7zdxFH+jL^0VG9;3zn=]795gik'^=pZZ-JU?a]'0VL=^AZ|^>SEhbB%f31A7
hu8aZH-<D:eXr1GKB+x5,oyk]c@qU,mi)N5_GS(8i0tlP&'[JBUK/|E2>i6(CTM>-wGtqBgIAHQiy0Djj7R?RORIlW9_A/Mo1^'5
sbG/H_9TvY'2g&We>@or)8i'|?:G+t?.,fxOqFRya!6hT$Vz.vw077GcJmAAgbKCauTS&Bz5]]WNS1As?uE5rp@;z8TEmb~>n8sR
?.PgWn70'9XB=|:>DGze,NBTNhsGG<ZA[P7Ql3d^Sk2j$~0T)'+0%Qu,w~2x'e@u'q-c'O;5Ld%-l|:AI'YQ26Yhl5jLrra>v~E4
Hl7yiFrt1bc+eE[^DU?lX^qOynkA_vjgm24xMN5$[247K!_a&X[)T:NbE=?vmR19g6?F!!!XCfCSc$>2teD_g&'n==+3YW>G9WEt
94fCZ2GIE:xD7?5heh(M'D/OlC'ut|T1bKojvt(N=vqn^cZRyALzTXfi'H!_DAw7AABHa!iKb'X0MEJi1C%5c~;dIKu^iXX8PnAG
9fg1PuOwD9+a+OJP!ygfJp>;&?I4[OCyT6VaS:_3a!x;oB&MSw*hlgmOs'^$6hxm]h0d*HP)kam]ZA'w!t+$HTw~7Yv:9HbC*rIW
&4Cze,J|P,u)LW>wucoD|qWU=.5iX*.8vss/2tA%*^-Zn~VVvtqN-~4lBQOi>U2JKXS'T)4RUR@[EyoshHKh>,p$I4HH~d<Q,oEy
EB8bO95~p;6~!n;Ek628,c:2JZKHq*9h^@%U%2-:*)LBf4|li]%]'_dGCJsrU8:_i[taCw/cM4VH.gA:|]1|&yM3fe(*s:ZIAn+R
O+fh6Z|j3|%tM~?OnjEXJt/-%y>vqBqOs4*_y&tN2E<oB,Ll12Af14H%U3u9E8EU~b*4zwICg>?Q'gJwW3]vlOo$:P59-F7,.n=A
e0<4X:vLX.BR&sH5)uA<_PMyrskv*R!B2?O)ek%|w7^-c96poCat>vdjbZ:D~EQjolB(M,OUGyjt_o4=a^:AI6RG>Zu,tiF3CexM
>.E&X|KDl$qAh^FG[)]MO;PZ|!$>x?lh0Axe&T:w%I6w|6wK<^GA~c6+P=][GinF-[cyhGLVL~X|-,C9NI9igiG[)wDbUTKsXAQ7
a?b/;md8&Vq4,I$/MA@'%|JaD5/r9Ks&*NZOwy>1f,uJOU-X^L@yO6z0!E8vSpvzujF5/=@nEx92K-D0(LPs>O7=$zU09XPk.&%'
atG%J.49C7.hKWIa.fKUilq/EH,eABORWQz2$4L4pfVRr8QiG;>1s-[I,m<S.x=>R_dy)xdL@B^!!'J@4C@(f/49560/S>s(~_R<
SO$3xb0c2pu!RqC|xVCWYP.Kw9)1Ldb4&puqHfOw(jK%DYfAWJx3s&2!G(e?SgE39Y^U'eD|(7bksl%)0|3G3qG|L4C?*C@mFjx?
[8s=V..!TmVB1idc~|s1y[[tq;]$+|Hi2b2U2y-C|xcOFtYEK[[x8J=Ki*RBjS0)z^Lu+tj.$!1C2MZ''VLluDe<oL//QZz_3LL:
E.,ojQ:%4:9W1l<*|I3Q.QGsp1)p?g/s[W-wIIDRFqpJ'UJ4)1G~;QRY=FJknNkdN?2,vx<q4Y<xPcTw;.X8o~xQ|3Xz_NA-X<T3
&m-2nQXPf$z32=?Si/o7tBPT5A;246*HkymO:0,PMkYwy>0h&RTiT+if$2C,FRU3?UCbz$Eq4W)=8Of@b4*O9Sn',XTB)%tPZ/qb
Rdok.DZ8O^>eg4o+R%*MZ8O8$dsO-wt0y,[1qJ?SJG)BQJbo(i2FPmx]t69d3i5zg^O-LQU+U:a^?UAS_o-?;>v:a]I2sCr8D/$g
D@6&^4J0SZST=t)k3m3[dPh%u?7S.Swk&K=b5^u6+%:keV2|hee+v(a,1uIymsmKn~n*@%He(tairj/1R$rc0]OPB[X0OWX[hri/
INh8t:iR4OdD4Z/9|ZZ[6PXIkK<eWjzsOsW>.M106;shAF^8YF2<W~!FRtP]k*-kP7P$zs3eC??^B4>5M8<.GnJ!og]?qdoOC*~Z
k:/0fO(w4hu!q7(ms:;]y^BaL;@wfC<4S~'NEI5'&6GXE7[xMVd51t9uLXr%C-)k=me+nMHI%SQ8shE^.7cR~5Vva9f>~0Ns_z|b
LLR/[D[rS~IEsuK/rh~9oEO':1je23jVY_O,6?U9y5aKu4%X>25KgtK~$Pakwl0q?pJn%3jGA_<9Udyx$j'/~AroFdsy_YWh!Bxx
p2Hb]t:aSTz>xnffiFW&xyJw+4__U'TG/NO]C[1as[c(L<:u0m9Tz3LYmQ=7fmcShD.CWm6l.Bo_4<?UT$P%Tc4!K[@$-|P-7h[i
asrn_&NKvS-$ZGE.r19<zR3VOZ)k?Rc4?bfE+&Q<0*FX>IT$u=rVB'xYunLmU9aDs$[(3dw'0[^:HJN<7(v7&^9NDGlM-0N7qp_F
*QKZ5qzYgh2:fvwCl/QInZJ_uQ3KDLv902KAnE4A'y]I3Ez*][[U94syv5IJlLUL@e9anU[_7Ihm0-UF'bvIY@+fg,c8Qq~cQdY<
.cF?q*BJiHM2Z6DKM|KT&Z)]u@4CC0Tkj]r@1AZimme:W,8'QDZ0ZxPPR]|zgCEMd<a_^sqm7Bm0Fk60Vag[8e*kz,H@+rJ%s[,m
MVl*KB$W@/t_GY]w~HE_,OV8&:*r9AL*?X;+~Ae74~hM!zW|9;@mL*Tg_U0My)4To81lN7~T5)nj0B<:)2^*gJL<=;/M<=N.!T0Q
1(62|a84|w|a27JE@((u4FVl@YRaTn?~DP,$)b'>E/5&s6oag<~Een,Pss:0zZd=*7/glJ+qSRr=6E?5e6y[q65]o0Y.fih$J.c:
W_Grt*K2M;E/7bBvB+So3x?WY%e<2<:j,-Anl[9CR7uAKu]hmsM3n8?mGXa'w|?,YN9*K3SpA@mo1!oL]6sZ;ZePR[PA3DX3Q;WW
&un:>Nq&|DjHB:nDM)a[7JtfZ>yB)67~k>;Yv=>e2h//.k,1sPi7~Gm8?ALs*-3NQ>j.PB'TTz9!w+=u4)~lSr%?Xu.=XC<9,,k;
nXfp<L1z&8nD*nc(&AygZP3P:$!4Sks!<,Ymi~t+Zp;88^yJ.r>iB3C%KJJ)x':wm~~Y5sjuG~CSh)PzZ:)DfI,/GCD8Myi)3=(n
zQ[_MEpwkA:a<&5D:83p)=Uh?(tv_VS^D=O>6_yHF$p'avK3c'uX8%XN+wFHZ'[-Y'G:x/WQfLepaM*?<?gSP>ZBg<)CwEGS>28=
FZY'qR]l,G_ky;7TjJ*e,EKAp'~9uhZ<k+hpf<lGsmf@wXe:!a<1>T&S^c(LmZavF)[NCoc61h)_<6dDc5tCn<I/*N0-<*lmlQaH
vt*hcZcYD!.lhVi$DuBHcmRQ)3[HN)QtZN]Dl2If:eZR0&;BLGU[U<j$Qv!K3U>rTw;?kK2nr.UnHR1(UJd:'@j/<iJmpr5TA-?4
buqx9G?Yimnw<BvYcF&J6YsS2gMU[|Ak<~qc*ORZ5+b_Ibx,mT<Na]zAXWq2T$Afw,pAO@ABvu&3|.vO?1R8+IN)aSB6d1IO%YV=
H$cwUXj]0-_7u8eLs^ZPx)>/N4IyH^oU%>p=Y27I2%0<R9lvjqv7:]*gSKa(Ydjl_zd[OCP+b.]D7_3phB.bI1NOsTg_own7?'D]
%'TNR/%VL%L1;.gy&?m/0dPKT*,AKPBW?pe,-YOQ,8kLrRTbQ95$Mc/V9t'H^Rwl2i1O]Gj43aD%x)6nI[mqa9c?E[,8ets^fV[.
x8qX;topd,56NdRV)I0nPK)d^H4tqNJu=zc)EV_KlN.!Z>?D'MTNcGfB'Mb!'_)-$-$:NaKHY2HE.Q-Vo+XM>>_ASE>,<O4gd6-]
@TA7,X*R2o~r|8pGonj6o-];Wyl0XmUyzvfa=ms&Gv^7oocd*Z&b*KSz0jP<LXaJBFHF?OFOR*MDON78Qj$Rrmg;B^f)9cS~8<h-
W^Q+r|BV]!7QTH$ET>&NhS5?3%zFfjV.&06~'c./[k7.-;2%cU=6X%b?qY@=fB;kY>V<:LQWD;(Pc[R[@c;|UDdMsi~2)!G.]i]l
HuU.!d5cfL4WYScGJTqmoSRpLbU(-)H9.K.8cb1TsC<^A1Uq4!9_nH@c(QY)t+~c88Z%N;fL;I>B$PJPpyN;VW]<OXXZBmo4AiPw
BKf]2I6tAP&tBWoIbz9;(bVMg'j3x>V$x@;b?=AFLQxt2rj=(SV.w-;+$R*<S~+MA]94gRQ$WsVyBcl4|=S-XhD1-s1S7ggRBL|E
4E8]@3DG2-kd1X21!zaQED[Q3Rzo+0&)G&?'/pl)*T!QC>s9x?CtiuNu6P$J$qYO6PVjV(WVgtyGj:yg%qIKgoVmTz%bTaby.j%F
yA.a0]n!fnudp&ec[.X57ak4nRfM~4)Ef.3U&jy7*%3R_>&fk>OaH?q>dWk+rAGkg_J6$8|[%$Yz%>Dj2>7Yiw_Jk_F/?l]R]sd1
Vfewt&Yw&WS@'b-s)FM6zQGxJU9&m1;^a|'/^9/x.ir+o/Z^(+E'xPQ(Uh[F^]KE4<hAIwBdIT^2nE<8<?vy&r20Uq~tdOS/oS,j
[kES];q8zOGX!-jH(aGn&kl4;ol%H?XMt(&Vwf61Ig-=L?eBvAz2KRyDn|*S3F?Tyl'mtVE5o|^Ocv^nP71!,<_t4MZN8;$SFNa[
@y:WI8AZXZmm<%pb05c^'m$nU:o4|TV@f*e?UP.-!6^K_->[T6&+B1AApTZa-8ocIgdro>wNCZs)rH.9tH4dQJX'ixHSM)snga|/
gQfrah^>$V_d?1AY|[y$pa_syW6p~Q7eBaol$eGN%$ZHDY2a*sI~9jO*7U/<_WBUft'xq12n(,-gv8o,Fb|Y$g~UqHyPh=dv:rp'
<sMg7~p;:&N$55[WiiggcA1@$jS2&GO+.&)hL8uvmiDS2.RDBZSnQ$Sx^+V4d2&kz^gsGLoS7nVo/F*%^=)eHGt^]V*ydsL)*sV&
Q<|)Y'aeI)TwZqn;k[TnxkmzVf(6c&iRLrKNO<FYi&.<?fe6-e+eeq[&:Me8WZbgiV,GC~H0uguu$~F!ug.@rWjtcXB*41?)g-zF
@UGGZ+sm8/W@$b;-;b+jrN$CTFTkv5QN@SU*EisbiwrseC~edQn2^q?B'%'5V)$5]SHF>SLkdBgaC1yg7W(i)=$tvq[dpyzT8f=d
Z;&!tx[B>2L46)c_L(rGp<]xA^8Dxnl*W9A$C<*mGa?*ISJKYzjdbttr315q(_E-f/<6c6mv;.LuTQQ8*YYbC)lZ59@'vJCos9)U
X'kso1U.DtC&z;POHB%mIe.|nypmQleosxd9Od_bi38Q3mh-(J>YbOO//f.KMh;~00&U42SSn,Jyb.Nxq9P1CqILB>/VU*noDnl/
Zfp!sFx=3$n7S&QGBE$ruh%Y!!S)m;gag%2Y/4fw'nYzS?;H'v+d2:/R&y3-]j6wSD>6j;uQDz=eIs&dG4f8*epJK/6^2i&vD1%X
[90lIrGBu9nM@-]K5F+hi@SSvXyJw]u.^cCM(/^g!$=KwLU@?VtAdRmOY2@m%aXF+t,oJ|smFM&g(14iAML$IMaDPS%~C=yc,/-D
%Y%RXi&;oxfT%-RBgg_9A4%[crW8@K*|kNN;XSVa85%gBh~DG(tr$i&H4HT$+YsuII8Rur=/ZH1Vm=Wt3[O'^YtIw;D6WidApJWP
h9WN'hUh_Ar@W.vY^OpwzxAj(G+@?Z+f=F^hD%w[5MMXddu6/W<ZUs<(o!_xsJV:G>?v7h3JtCN|:1pDGWE<N8o<JbPD)_jjK1Wj
/ex&w5;|:h7AaIOQ%Ao>[QSYZk:PHZOMLV=(g&PxZQ@$^Cu^:/-Y4L&Pin45w?rp<o<w4L_(B4y+yQ6U0Im=f]%~VI>3N71>]PrV
lX_^u)QHPMUBF&I9IjsZ23w@'Fv^rO+.jmJB6L/)d4SSeGqX<|e(,.g,DOxh:v/]8*sc[4'w7g@'1jNQUW~b88:IW|5a@iV0O!5z
4Gh-9'Ypzw~Usuv1i~;BWDg52-UJ[NW6SSkGm1:~2!a)3!^a(%w7eTpKOTc,j,).UGa|h(<35Z:G2K3PJZ26e6%kBLjoJt7NzSIA
8+,sC0_GmZ(|'[FuAAXFaB?U&%DQF(~nccO045nEOPM[&QI%Xh9Oy]Tg%)(1fzpZ3PX%K0KJ[+*GWZz'YXR&S=!m.|&n'CBHnxg5
N~qDtRC_9-:eU=PTKU+>?6UxiM/K3o4p>^&)J:!.E$P,Cv,LL'9l/mhk|6.d$KL![7J>c2dK.3V//S3tLnT/NIqDG2OoHy-7JMDh
nm3XR,OvSwE<5rmr%b./XE@9CkXpa_*=oYo^-.a%GePu(1M.EI:X'W-A:YKP4l=m'.M%LrxAlx*V*YQeZs.bbQRM*!<jl_zM7rfC
ArBrvFogHEzPr)e<cVW4BRJb9LJHYXs?HbLvI!-dvn>Iy1&7]wDe[.WNbm>W>HC;b+<4@G=1<Tx(FDUp2QM[7)n<rBXq3<?2Z@jj
/YHYY]3e2S@@xr:^NCI(ZI@Db$vQSGL+Il2W/+O,D[6Ihj++U<]+Rc)9FuGJ^2w>@xJDjwhL3)F89~)Ym=GT5o]0?<KK*E]G0'(d
aR7'Px!6i;Td.!XMEAs91.OJ~:+pl%NMXv0ICv<ROr'nAg*3'Xq1eE,PVlec8@%4mE?>~JY|W=j,3@D!)@/~q@G,&rla[>[U]_Do
ktk'Ke,LCl38LYZtUgF*!u0:%8JD40~|a.uH&j<%4FbE9kM@aGN0d.[kI$;[ci,V5X?gjQ?VADd$1wVhjh8yDj8a>uQq37y8;6'%
o++7>?k]~4X8~w0ulBt%rhnK;X4Bz2*UkOJ*sD47+MoE2pn'N,HP7OXqA&jC;[[+J[5yq_J37YsE6Q;ux5~WqIJ*)iGv8Fo]/h(q
tH@kxD3WN[GI^Wq=Ls]6<Z2&!iLZ-';)JxYJ+f2hM1FXmhLIhv4dC]6)chUJ'aKoI;H0KsV|702xr16gDdK?:_W-/n>s~8_q%3kY
)uy'gQ]=VLl7!VYK8E|:Q[McC60;MgJthTu]A!_?b41%@?<dKxajYWQHV59vQ>%T0o)~M8<1r@KI9:DA$gL7'|*!hz&Rq?cAoDVn
3NeuWxC$t2as&%J0NXrM[a&24qx><pQ)Ovh=wl61rA=df2<z*hT352^T@AokqZ|EDNemp<i.3e6MCC]bSL)aGsnlFD'O&-]wfB>1
q;i/x!m_elu?DKW>q|LgxOe>xLK95<,0YJuy0]U+n@H$KcC(n&~[:FIh;oW>M.=w^vUZ@Gva[>47_;Mvy;'EJcUJ'L9dTsRnjNly
sr'DH8Z)^P%lmYxs?/S7/Z6C3BQ()@B&8i>:Mp9gZ51Q<><gw/T?8y'7odi[^-ZA%)!BXAO'HXwM2=hH%%s1Ig-[8mFq?T&IJDAM
Mi=8g8G<hWguM<;FYw+f1GUfJA<Q>x;q4tH.(*R~;|&e7FH[EfI$U$*RZuH/Qbs_cEnDj;:WAHI=(5i$6^HY3&g2qwA69:OCfx9F
?/fn3!ARfkF&U3M>m62^PM[^DRa&c<-Bstq@=~(@rD:>dTEuK7DN'WJKFXY@3agW.<rU=-LJ<^.9llWfv)+.<N~eI-7:j6[OJ.Rz
F3Y1-vD:8GPx<&Kl,CyG,5hX@7keMuS8Pmc6IaJYo'|N8S+k->+S1A('1nwt=k68bY)=ZC8sA8_%cQKMyPjg%%6),Jz9L/UGX/4B
3|YU[d,%R'V*:1vm^~QIA(*?~5%rc^[D'GacWmntvIW,]Fz7=ev=$iyF)m*>'E'o|axJ+Jo(k8Vl22~]*;]UE9Sg1X2mc6OIrRIS
xp'Wao09Q_KWCdUJEeog<m08?E-*,q3@,arnjnmQkk=~,.I57iT:0@)2Xh'.pEMo8GI-F=&j+gwpGuQ4vu*<FasZ@^h[VD).&M0a
Xj=sIwB^kFFLz*;/He9tE98l,lCqKaJ+xu,w=%pGWF'N~E2Q.IG+Briyw^up<&w9BhaKLuvhT[K7Ypu9WeU:>mX7t<^0d9Z$>yV2
vS&@6SnlHuc!ekiDxwl'*!x*(ad3UyCAYL'+RKr>pkcEYXSyCb':FNbWo.Hi^iEP1Nxzk!?XU+O<%IQa6ouwE1B<'mHc$~z4/.ro
~2[C9*[O[k&;DTW(;aDfAQ^Az6uYqZv]^wYfW<uFu+0za|1t[*OeRnZlIB.pt7)Gf=a,PoSx2.7-@9zxA'z-sxr^TZ^wkzlOuXI1
i*).va~/IJm6d?dt$Ps<ee.8g]z,H$dU+!s(!C<&!]oCGV~dbsRQWqtye~vJvmg>*y&F!<Er?@vAt3Z&Cu6]6*]nnC^rsfm;Ab!)
=MAX]fjcf5qfdYQlXa'H>I9q.@:$Esg(GTMbx)fx?>[o^88g&:<1.eHIU9$>!Sn^g5!=-_t+]W+edOl~Qc2Hey*Wpm1W8FB8TGg6
Aj)Hv[ha]E1]c1=z)~~Az,jfxHN9zn9))<]>2AYS%u'Uj!G@[!E+iIT|W2ZsGM0]=no>>vvuRLOfrFHxQIYRKMpkep8I'rh4ATbB
paBM%63I@O0-]XN6E0]OdU!$k%$sN8@ZnWl(2Jn-ydOh_%L[:%w<KO?3jZaPsSC'%$,c9gW:;>dkG=LR!9ZmS7LMlrm~N7d8Nk.B
h8[(Ht/+5Z7S]6*/~m=>DPyEO/+LFzvCQIYUcx<Z^94_z_d!Be?.Kz8bpIyM.9)!/q'ITFv&]vZ_5YC~k]Sn$9Msp6)y,@>^NQEc
l_S=:SVTZP;ViSuBowo6%@'SaeucG.p@'|p&_F-aO)'qN4SeC10)h7Zdl._%GkAkHH$ufshQEm9:AK^Ii+e0-=5ed-h/LnjoML(C
o:wGpAi0T*mxN*o[U)s]tVKy@6gNpO|wBMO+=F,.>4ZJ~-O:fu|,vhK8+04'y4(h'h[P3,:zekb./Ml;dz2RAy3EaFBP+cehS@@N
Ay|<Xi%!V|Q9ryrYgCO?oyv%MUErbq@[3f@coPNpR]4]hLxHU;X..INcTYCzZhY<=iYVegFve0/L!zn+p,a_%X<.yzrzD=D$ORq&
:xdQ]Ed8GCkkZ&Yn-!nrtmol$bbSM-;TG_CuSknpndUpw7pD*KF)$q8L*aE)Xn&~cA49]qv3['x$kJf=JMT-tszaDS0WVvh]L](/
C96HXJh0xalrqIPDqs^.ra5J<HMt.n;NoN[Y<tY7IzBAoRy@~<y*&4/>Sfr0?J'Q$8Y8od,T97~clZzeZ,P1Zh8SCNfu*CJ4N?ve
P|hQXx+9Dz@.DAAFdx]3-zQ>VSE$<6-!X?93|n2bmHwBuRXmphh(=h;dDOt5L=HH8x1Uz3KXE'?6@n.b;OcIC(8CZj)F_34i.-X&
C&.!S^q!>=X~!S21GcywF';-ej[GHF(UNFdGPEES1&Drl]^]AjprQ/tqyl[Np5HhAY'=_H~Pc=El|45KSBkB2dZqFT$'G)q.e$+Z
9$(qOW2y51dX<(w8U;IJ:Z^0cu$Y.E:lZYT^A2JRDSczXzd9Y7UYaqU9|?;m7rSnJ5UP40mBNg8qR[ME!fypfWTci(X@1fcQgs>$
Cwp@IL^2JrB=-?k7S-8~^fGkq@GzR1ukIisgWy]Me]L7M;O1s7u@s<s?$Bb^MQR9c@*J~8|;T<]''V6^56doUFe?NlU%DH=U3>kZ
pr@o$^ibol1Oq_RaN,?i0wYN/+pDs_+-KyZL!+=((r|au=$Xgv$yV1pOM4jik5OTXl$,wE|/FHyz_xQ2(GnWnOeq>GQCP'^6fZ>g
f>x92^b<U5][tQMyCl&^7mB~sWa:$E]LtCZO|4zs?P;(xz-7I8Mab&N;'FO]U.?X?=[AMw:rh_^6V/bg;'c'lEB^^c*<<*!$KsHg
'gXa5YW8NAt!A2x*.MYfi~:i&yKOmL(n|1TPRuk/d+)>/pF7Zwvt>~S:ppWQV,nAl_8@Z%iis5e1,y_1O+9'2fZv-TgDM&im6<cV
=xaab]g0*5p'AWfCGg2o=CfidNXkFh0wDG76Z$6%[BZh0%LFo<YAX^Xk@$?L5(;d:)UhM!GH@g2OAJ9R<N[.=|;aB-(.ws[s7[an
d)|T&@>:DZOaooU?QE![':kzr))|pb]TmAnNJZ~UQ8*S;Cx8?VWmnXP+Us&aj_,rxw3FSV-nhDq)a?ts3M+&.j6cMYMIeZ@%gD_)
c;L7v5sJ.?iVJ-IL8IsYC'[+2zVg1xBZfqNCm&VWRriqX7=7zF*RG!uvawk1fTPg![G(A[r1pyn,blU]Dt|iuw@efMzd&DZ3=@/+
|CXVgL&&RCcE_f%V([TLz.)j5d3C[+t1Okz.jY++!J82'w,qZTgk>n%-iEy2rQ2:('^De4r<8n26(h2YHhpvEd7<y)/|[ydQARfT
i0m@,p-+](f2SruyT5S7Jyy/?eLoQi21EwZiKvd8CrRo_9qJ)AZ,5U'29Uz_-]W.-6-9yfqv|4CkadOV~6yI@Vu7AlXRz8Q*s8nv
9Px'(/^+KC>WSy13gr))K_DwtBV(85j%2yHL:WuXTqM@!.;eb7'$luI$XqEIrT[8wf5zwTx&2>.oNXM9yXNDqj|__KI<:M9fml@r
$r!xy2~gP2@y|%[%;G=9eCOQ2U<IA~!>ro9mpMs2gV0mtMs_>9aqI/Tr>ee)58T5g<=VpJ^805;dtD14o%tm+BLEK2+A5e(w,eQc
Q5buA5?sb/c8~q'AKyo,Qd8gI5dW<4[a&ZswuZl9l'iR]Dm)oEf@cYjrC(sU9fI7dI!OHy(nT&=@-yD@<r*aA;SZV*$/vX!@+Oq=
s=5XeCatf=GeRH:[DR!,%j)!irakY5-][8NrX3B?psNpsc?2N]WTmWC7Ja8.z!6I~X?w+lIuqnZ&Uk+e7D%(?!4[Q@Tzei-66Su1
Z;ew,O&_:p]B(R@6u<ycss<164I5UQMidoT9=.(I,9~JvV6c,Qk$~&G2/54cG1q?,hq3<:5*-Uz&+/:bhjrj<(5/[B@M^uHdV1dd
-@Cs4Y,/v)GBb|yQd(70Hi$a9*PUNrpTga=q@Kfz9PDA5b|j_4uVu5Ruik$n5^2[I^kkmF5ptywqIpG$_-l7Q3w_sD5%|tRGRzL*
uN:[(4qj<)J)vQgPNWm)0r)()u8*(bNHQ<J_s<oL7pPdm1%OD%oiE,V*s<TQ;OE/|%*'IFJ0Pu4y[Wg5;3O|30PB!^<n]5tQ$B*F
A1VYcWg6KBY|lZHmI2Ld5[^Ni-zJ=+HyS';7j4ojdG>~^evqluQZZA,O%gSjajCMfQC%fgx8XE&Am'8iLAceu-5f~k0h,>*/c~Oh
bW)'R*ouK5LbL0K'rW:qe,xV_Qu^zCskFo.,mro*&S_5A2y!b@0eOJe8?30Hrd(9=b$M.H1<tvQSZ[AgjuX@9mrjQ_Y]oiCM^2Jy
H^,c06b6ncrOW[ckH&18Xq*&l,uhyToX'.L0M@R>^Q(2rO+2Be/kF?k_R/1B!hSH7t6R+z'TSkuBtXg?eTq8]RFP*?sb@gAR!6gR
D-:mXo4_I9[7/X:]puN[CKD[<c9&NQ],&d$>=FHi[^j0rN>H.TP_JkXpi!zT0'g!<slJ5b^</>E?<kdBI@D/[-w>~U+S8Y;LW^88
ph%ulP99F?m,==BI9bVxB~bu6=z/~_|o%Y:aM.x+'b*Ck|q2_8;:&+mviHdl!+X_&qmv|-Y85FRtV8s?ljD?RFIYi8B!7eiP-)]-
<Q[wh,ZdzFw.[ql_z9dGP(Jw%vSzLx'n*6lrQ_(l&>vV,sPJ=y_E:&'cQPf%^MlMJZAWI+~AW!MXMG^tdc<p4b*k-]4Asa5j@UfG
G^>fb2+|tWE+W%;YF^<jP]/i,dx0x[kc-9QsDD]3/E[ohyLrf>XA|JTt4cG')i'*F=OVbN[8Djwji%42y]Os<*0So$upDCy*-^+k
1pjIYfON^l$O5iuuzH^+$8Ca~xuFu$s+l2EG1t_hwq429vQbm3YH1T$dsN-X4<hS0C0~?>Kx5JKJ9s32R.7)TKt=*>uV[avD(6?U
5W'JKMBvHK1_xx$?EfgM=W^,Uru?lqWONz0n6~|Gm379cN@rASmb9e%ax?1t[bchE[bbw$qK10V(:BYHf]H%cYAxXN8k4IgU6M;+
f)h:m(&2.$,Z%=Kq[+~!eZ2ar~!mQ=fZ!c=LZgu816m$/wP^%Z$0Oxm?erI']9J'<x@z?n[ZNI1OQiu2m3,%CDOALwdS-*HKn*v]
JPZ!+6:J[5lOKCv1nBR)CKc@rbgC]X>LT_|Mb1pIAXZ(y~5H7b%jnME^NP7Luuxh>2c<XEBd45Mt|;^Io[Ab5HU7RHY(Sr7xw-T:
>+uk0SF==AZ4FIk+n)kyIpa;~Pvim*$2C,!(Re.>@rG+oaSsrM8)za$VJ%%TS'T%>ruO4E+&lPO)X>:p+<0~4;HHMJd3(-dt7mtZ
95[G~^IKHy6CS730qq.uA>z'r,'vNWt8jcNknz.>A,7Fq5wvc416:+tE[[]@4Db4g75WX:+n4hZWL!6>fyvX--mMARvoY9hRK_nE
$U,G_O&]z$k|94?leer0C>SY[+[@;A9qzuXXsHHQ?kz>AOu8X7IB~rz:GeU=ot,bV-gxy[NVIFhU?|V<uZl-[n1EfilCeqD/xA>9
6/bH9ZdZKhlZsK(2+~fJn[B2hcoS>ceMi*iYJv]Q7TmNxVz0E*1]6f(:/<kWlu2$0vgo^t^l^~*6?+8>RkE*-Z0wWsgJ:GVg[Sgc
0'cWUL?fTf$?:Y=mEM+f(lC%Fl8Yg:*jei,Z/u7Snd]lxf,[xmiz)I_>r>Kao*'AD|[Y~tGt*5dz)MA[Qnd?BOvI.9Rl)BO4t_O&
+/awD+Xa!|5;+YxxsQlT?d!7K2<GijTrwguJ:[a??$rR>V|RlFRHecC'T,oypLAjj1WbMKP%79Veu()Jxw.tUM[nu3j[AVUQBbPo
WPlldWT&VCm5dq8|:%G;&tp9Ekb?c;b>dA.g8J_NXRz4Nh3Zkz8!fjS4]JK9ppW.f7_XyCe4:$8WPQ=y7N&^0;Rm8n/c%mT(p7Be
&WhV.ip?h9o6A/aew[+N/j&_!d66(.h$<.rfRM4>H0-2*g.z:rFymwg0@5v&&bxSikvlarm;dPgNE&eYiw+q-YI=W|p_*EAa83d%
T4+RO'bGoC-=7mOU*W0<r7Pw2:pSDiTpme]qMg4;(c~YqPq?q1jef-pFfHq2z;7Wi(9T~+qMhNb6TPF*>k-]Dd&Bcb>:9@OOaRv|
aXFh2$J@-snH;.1<|ZuMqUzkyKLms][rQTiO~9KI?(@T7,B65r&xRqZ$1$&$qh:$pBO65bPoYxsfDZZ[G1HZP!-206aT;t!Vlv>d
jr(ghd[Ja;_^Z]c)O9ofFfw;V.MYVJX<q_0(C.&+,=,>TLV10$^A&068(p>C?*h9r>_T%.O-%M.EBT9c[mFgk28Kx8%b4H+^)oHb
x5jew%O~/B[yxBXW1%qzcaRx&j.mC!<08/|4(]N%LbW;k3,?WbX4f~jc9;FDeaD*mak&Fn4_R+>ngsWS.2rG?iY:'Bk7!|L9D=]I
z<mG$eO76lWoZ8lTD+W6-q?s;7hXMg(h$l)[d:?JYXvRL+:iu-2RP2FQ^5eN>hIi&zshx:0OZY5P6:1d3=V|_5JE,u@=LwLj22I]
Xd9~8;IsRwv0Y)$(~(_Xm3+ar7'@Pgj<*gt0^cCQnjfN~7Gh?)7KQUIBp&pVvsq=hOW~F*svI(a+tZjX)/<2X_EpoNqCc=e+=NQd
t.f'NJs$OOTk;rlU_*owzwob*.;UVhvG7(~3?XWX-c.@+mPf8WUh~_9BB*.]MC!);R[bkc';O:=rPPa_H^PGvZBmq1,UUHCzE[%;
nsty$:pJi!'e!dln;SXIDA-49;Y+PwL-QeB9$=_ZV7+g3tlpB29wN9hQt4u@U@YPWT!RDcm6Ci$dv@QCz)hR+<D$HG@jXX3m;E13
+E5^D?jl^aMm20=I;]p7D:OPatFUa2*@JCuitE^sACesUmn$'TL)Tj:n&aam'yQR$PhZeqH.6TW/r_iLCN'|V1:rYBu*SK(U''qL
t)KWSQS>M6S|mS93dL:mC|GBG,nL&*h$S4AbtAq[^V-I[46H3;)^LM~uUL43/D/1R!zTzCPP3/[Gv%jwVG=gr2txiVysXd7bYx(r
9s+=B@Y%Se(nPwN)o1f>wh17%0N[:*mw+O=w2!~(JS^n>@X7[5=[*(t/KbCQ~X^1'=fR[U0bkD1aXOvSb.w3n/Or-(DtudsP9qgI
qR$Y!Q18V+^=DsaeUQA^dQ)T+qY~A/~V!qmm6<=JydDP3%jeh(4-7$->]Z&U-B,;Nw2g020gcE8.AlXN94zys+fDJX6y2g12VVB'
,M^>hDjEZ_l56V].H>Z=T.<B0lsE+~F*:K9)Gkr0ABr>nwP?4!FUX2CD1<Du6A!MYWSEL+IaYl@3jAEuIZZ_v@Vm$'tIzMfCn!Gs
Gk@m%/!3=XIOMvpgLDpqma&r46(],UQO86(s>!1StylBkoq]YC4OwC=<s>b1Y0B|G;EU*L1IQ)it)u&4?bj8-Q55mt7tpwi&!2%?
L1A5%aqZK=Pu/B%.$rNB;9n9Avr5LDT*0QF2bQ82*wN+TNFk6I~dlsxphW=PL]IZ1M1sa[W6qMf2s+R,B(x3F2N8n48s-VQDl'MU
f^@07@p'&MokrpgJ?$vW?ZzR1)i2;(pW=L&x'T;VR:(_E[g<_%^],x>xY&i5Ujcd~Y=MaSN)A:ynqM$w2Qp5pf!L1@**&sa=yKNC
gNWUVE4;.*@+3<R;LOE1<&Er54,9WSJy3wM>]@Uh'1^TH/9|E%x9J'n;t$du**Tz'$5?7P&AjHe;uVkb]k!ox'T2OTApiowb95/4
crHJNolD(s_y6Vv%iA*h1r^eLEuCPJQ60WV8*n%C$SmE|7]ya0NG<-w@1AmEsDfMtk(GP38E,q@'+SR]juBC&%%*'@vxYc%Nr9(Q
(*aPX0_e1x4_?y@G(2,0Qri[zl?qhi_l+yJ[kSS]5T]'Z2@,6<lBs7Af+Ma3t+f3w&dT&l%HOCc>Yn;W6Pc>CUHZ;3dO~Q1COmCB
f%|^_T~'CYPF)|z?6t*pfO69-s+ae(ZihBzsh+H>=H/uo*N>p5x@deAlj@wdYL+Bfja$!@[bWKQ|R8s~%MTIcW9V|%p=ePv]WVbi
[|=eWa7Gr1>xM)!i2gsh|eNQF(TF+>8ncZ'SQQly1f[!EF%9gM[gk!BLrw'Z|X*6R7CYg(55<;ve2eee:J|?Obo74>bro/R71s&>
UG!Nf6cZ?!_xGe<E[lOYd3p)k*iTiB!~'o16*%]Q)|DzFfEaLm;l.dUu]H<p<d=+f@A@_+Eg<2!&8M:qK=YzyH6:/O9sjvXS)LF8
P[,!Vc2hye=v@WSRH~jPz-|aiDVLFvA,]2_)j2.a00:D*(n'&Ix4vJAG1Zq,Bp]4wH!v|dlnyHS-U.[Bm:JIT!Xf3O26we87k5P!
,&1ZPH%L2e=Ki-<M&|AG$;5;7I9+c1ZrX0W%m6rJvTe(r*>*:UBJbIoekp5mPvL@cd|twbz|u08:T;K*K'HN?zuF?@.&S/BCp+Qj
DrHRNvw,4[a71V6AejtYV>P/P!do[ocbP=u;=^[dFvST6TL69yTg~PO-1f8tuIH!Mz][BC<fu0b;gsJ~a(_j)%j_!@+7+-CLMr@:
@[xt2z]$NPTbe(E9^4nA~uH,FKM!oGu~/%JG/HzJJO9v!bn<4eQf)y-26JyeTKhrkW=-MK-zkiGsA8?P9a_t)FgGb>%AQRJY:86k
khpsvnKIXnxhin>bqj)$GE45BLAG'ML4hh4YG|[WuX@8xeA8qYoODM]OCk$Rl1YWDl=aePMud*%rlaSR2tur,nmbE^r4c9@BUTLj
8~Bl@+SPN5t>w9xnqE3N|Z'g3Q]pCX[Wi?HuBRV?6h(|Hxcm]:WS9[i9bz5Vx'/W:@$['3:C8eq_ZW:(q&$-325a)rn.Wy,yro2L
<mu7+B9s;K|z3mwjYqkl*2@38(5J4[4@==Dl>I)6pAEstO'UP+4%jZm1iTOq;lNg%$5*Sxjv]PHhr5>35z'P^y-w/;0'tuX)==Es
]VKqX;iQe/8Bl6oN/2NmH$=S[[kNt3C^7vWUXZEahs>mo/,QwV--0G]?TsTbP8Ki/'0+l|*Q7VSugQ8,Okf(~/[loO*'g2S7D.GJ
Q5qUA+fW1Ds.'dsIP,;qp%2oLru*Je|4,8V(@5F(qXf>J;%a_!(2Le$b/%Q:z3T:?nTA7w//c&Q!m[fo|snspOIXnjd&J$((1/^)
KggN(%:4Y5$T92;R%=0TcxH1K$gW[np6d_W6R0Zl[.*w7?PE%J2T=B/ngB_,Wl(d&^t0)=Ssb0@Xriwy*u&C?Zb7~VO2GQKC+h)[
nns-NdV?9t+?:74y<qUCX*NW>A^8:TR'e!O~ZTdM!zAFhIG?>3'iO8%WjqTz_&03FEY*vKqrH)foUTz^6yG832A=<4LGA_Hzjd@6
^T:9s4P:U[bdEd_<[%8]wRwLM5]?'lxU]g?|S;=S@2*J?Y_N|uscR6O+Bhd()j/ayqWn)bbmFKS6vGCBEEs*=3tGcN<y5|PN=v>*
P5Y|K9(n^@'m&cDjF>>zN!J1H1',Vx=]cpN$RTYHi3SOpav53m),7=|5V!+I0?ks<OkCz$B|g7Bf|R]2!)9zVu+o/muV^xcA^?@&
DT50%HY,?VydzppB(c!wltqO=V.[bb!)/vROTYLV$ffG=n?L:N=w_:SMo(+n>hK%mQso_m*BK++~I*'<HW:]b.>B&2JzMJE/&awe
]?eX~T,z+-gcPJ2UY)(Nt][[l-:bP]p]xq!dGKv,3$S=Z'eVTex$y8MK'p]nkjT(XX0[qd/H;QeLk'J;KTC?[1fwe53:7mR0S>|F
HP=GZV8:&WqQ!lH-t,4&h4tEomBgYb___',n$j05Nu&GEDwb-o3kL31;w6idyPouu-MK2hK=+'c3ef-SWhOKTI|b8Yg[P0SX8/64
w^9IIL?bE(>p!.5-/18o;V3WIpx(.cRZ$l$V*745|^]d)PQ/KS-]*qtK:+T|NN!P(yvvx.5B7vY,[Gw:;kAfdc77xn@lbKzyIn2k
t:9MC]to.bU!h6mij,LDbRa/H29c46<4>rwApCZ(9v*Ostz3zHA8xiS[)iw]n$+VEpfS?I~nts?8<~$@!QWFJH.8hXBFNtFIvRv7
_t)(PAjtD|Kpkm12W+Q2P~zf?;_3;Cxt?)|?i$2H:e>0zMC,4us6oeObvt0lf%*v6$5wp%hmqW<vg.4hIYm(HLLVw71jd91$R7:D
H&Kj@rWMuw@ILTTSg9I%6_pL~RpEhGtX1wtXB]l.^mF:/&-6=2gaOq!Po&1?Jl'%tM>6j:F,%>~t*9MsoJ%sh+m5PA7AYhXC3[/o
_&c6ScBpIpSP>^P)8lmP~D^FX_OW5:,7TGb&tMrFSOVHSx)JvHMXSW,oq4@+>$>mY+q)ij6aY2(;($|m?KWoq%(T:d4f~+%KIA&a
,-^O$+BW7(C'-nk&Ua'Y;WMKKVa^P+GC6?,qdt*6ibMhUGz%C;@D[OcR.3GD.ghPl/VFP,&O6>vz>DAs-AA+9,O3d%Z![fwX0_8?
unHOlFmx)W6eVGi_wWu]~:o^ph&RIE6!0&E/Cil~7G-UhI]F0(YlS%)8ZS9[RDRM7+ytGwAT|NHIw-JCpm7n%gb~Ln:YoRpjj[:d
6~,!;.X*@Xs_.k!D)N1.YB^R_(XhceruT_k2~RMT4&LRH[&w[otmmfZib;e(8O=uuEHA/|YW_,Gt*w$DmXLaUn;x)G'4MLm3h|C5
*ii!HHJO$MUX]&)*D)&>YKD'|04z:]Isp%5b=)D[mM([04Cut2LCLY3_]-1m7(FAMU/=!D*+R]d4X<PX6BWT<w.2H(JiMzsD-jnh
w<dS=U4)j6!.~A+b@f8DDSx,m4J|<uJu^-Q!q(?g4KcfX49sGO>O_iEvb,Uceb:.rdVB;'HicwF%IO6~Sl-Y%Wg'zY]_Dr@%$^rg
aEzn&JtzLuQziu,kxF!,lg!W|5Fl_xyL%(Q[1f1HF~/3&_-z1/3RT:Vln5TP$rUah+Gx*96bjBE/NI=>w7h0yiO9>;APs:hpwO.q
rCQ(tdf]fYTrFzWR[W7RSA,Fcp49H;vRCJ~z2%+rIGy68(F_^_uDf'1Qp|5bG~J.5+)7m9/87=tNLsIxb4++Q6KiTj5>Vc]%BjTB
Whg9idc59U~KI6FCqZtvh8b^$Srzgm?/|j$OLXSlE[pVajvVwi(85@DuT;G)f)PaqGR_Xd!NiG:Hl1+pEe%,v:n,36ePx?OfJa]!
^Rm|$H8n%_[V7~)>_2Jy>a6>FS+l.VrQ5!bvx)mbHe[sJ1WRG_S<UUFSo-yqxzkCEcC*/[t>@V.Mg3b/^UUQDIEyXi0xUn[R_)P4
*U$(jqE6K_GMbCnXC'~-F$P[17F59J>YU]s*VX[F5QT:PIq.]4=DRq.GMPPd/?|owbVi_1S6>Cv_S%.pS(,T&(]ShbtHCn6)1MIm
$;sW_mV1+Kc<HgbPgQgeW;]j;N;b^&9;vzT(x;rmDZm-.<7E)~'>OpAn0=1ik]cPgv00e3)cJ4H2(83DNx+NkQ3d!qULBC7;|D:)
m>tFH,$vq've++2:R4![uW]Shi-0G53m+qB/P~)')Oj^(&Bi<9$[mv<IgpZvF!MB=%6l<Bop7&(.nCC%F_$tlvND[n9O.Kq5~|]W
o$h|9I<aU0$YMxiGH/h93|pQ+ZviwbI%4a;&]|hJj4)HQ8Zq?r+JTw&Vx3cU.[/<OT8Bsw9MIsp^IipGts@r;5OU,'zuhP_>EOKa
C![sM.BGVowD'e,/tq;P8;B!L6RzoV/^>rPCKk1CECEgRhR8>o=k^VDFy=ok/0IGN9*RI]|R;EC8[A*]n!zq|UcnUG[Ii-?_c=Hx
FTu4:JQpkc$$mr3?',dhgwdJh?gM[j*/%>2S!]Xy3KJ3:_q^ajnTEs/8*Fj5F%zK;Q|[g0U'X+vbVqw6/:?'1(,n3*8TozNI6YCH
;v^dWbn~-0E;/W+;d9=mMEmK=_v=uy;ekS|x,n$8A^:aF@E2lrcKo/rr<z_VC.CNqg0?Ps?g2kRzBizgiq>HK&~h&8h-MsoR<1>E
U|JqS5+>z6T'3pKfv-0ya8*7dVneEUa1p!!K?H;Wj[b4-PtY=S@(/^XBED2H93$@T_r7hM]U4]k+N</9GW?p^SctLaZ_a[>g._4D
i*I*=HR~MG]si3kf+@IXeugqr]b])pof>BUa[i~gP(XqEEr+9&_-3mz3Arb%,-_htsClTvT.YJ!HJ'?Q4**1BSgXqu<+Q/A'cFrx
OwMSybM6.W*1gK4j.B<g_Tsn6(8CyPY5NzSAk@UfEqORNN35=3iix:wO=e[[HWGE;<DjK-d>?*zYhyKT>p.vl$vg9F]q]x=4u!L&
Zw-Y97wwSE^F/C/!Y!A[FZz~*o-[t[0]V~%(+<nCbtvPM~S/fmdb<@~M2kgl$?e(Vaf08Lb!uL=[A(b_u(uxej+DiEB?wEYAmaX>
w6<0)y0I_HRansw3*'unm?A,_v3psyxSn;[oaOsD'es.G,WtvE8gDKZe<e(>HE8UVJGyR?nr$maNYB.t$e&0M;%~3XQbRH|q=|sj
kI;*jq[?e0jrvNgD>gP0dllFv'C):uQy~qLBlzD2k/65T/:pv2O'ZziGw_(-p4hredxlP$0qJ3@p?r1H-m48FWEjYw-,Omnwi~oI
3=Qp*MiJu)uir|.L!V%/|/73l/avkxxvDI_G32F<ah).5@|TksoGd74wK(&Z6(%pm<b'~bSs?xh=yu+~|f!P)?^T2|@GWi%*ULha
+NP0=FTy63&TfRgX]^jueOsB>aY%t2UQCRt35H<jGQdlq<gq?_&y@:>q=mO;yh&;n2pEgxcWL::wwWg>0MgPLW-B+Xd:lszMIPPn
7[Zqlldfb'oi@m46^,Uj>P8Q0gcd7>AE0j(>DFRF'@1Qbbo'0!bPVYwYkz$*ISC:c.@(i(B95b,%+f_7>xS/EB,w_aEy&D<F)*5d
@[C>Ae,u(lN?(IsDVm(W7[fdK4qLzk)WvameIX1*BKp3fFHAD3h5w)xxInC5Mb]p|imc%Gb7;>iE?=ymv$)glr7hh_SQSzLnb6%G
:>Vc4moFnu.mLOGd67DbTv5lOFe(-_DGF5X<*gtA+'rA$xL'b8$b%TxU8a9uW(/d7;+GagSF_U[8lhg0xKyhTrn?BG)1E-m7IBQA
ek@9p&W/$4-EV'R?~r)IJ%hkN]MEC-A/n').w,?4|:LNiCWougyvgm*WQ)-i@H]O3o9K6eSTO=o$q3UNUyHaYa5G^/JQc9n4R4za
8H><msh5dQW~2L&~,PfJ_tN_G69aVD@/z5jA5BO_j6ea'3vkXqC,PC:op.(f]JJT%x,$dXO]@aRf7Se|j_T8~!|yk(d6Rp[$jsnl
VvfFv1&_Wp0|ambSnv>T/)|*4V[?@d.g/bB;NAt/J~WtpIdF7D:e1:Iy~=)DbnK:>'pAIPoG9h|TiBu0+Z@cBAr1x&J)M|:iRo[%
Dvc'RweO-wLkgP*bP5fyulLVW@dV6)cuW=L)NCfvUm!aPkUd.~-rahlL)P+jE+=OJihM3G0-b*t*9_WIw^gT2Z~vZ_?;YzhdP@q>
SQ<Vtkqdv[:tA^@;C:P[hXPu4R^!.^A,Y&(^%0vie*=Z_zc-ZO0*A|-P29Mf+(@luIx&6@lZ9S&UHg2Dbfb?f-1TZ5izV!^trICr
8'kA1&*S]CU,7(pQOb+ExFTyO43mwhF7+Lm(_Df(I&r0CZr|I;i'wk]r4B17Z;YX(k%pZC_GMH,wO]S^lSDGsr&_obF@9J'EPMJH
'xlqIV:g2yCv_.rBe2rrMvcAh]6RumDq+r)xSIc$BHEwyY&)vEl>=knGVqaT~!+93LY~M'y=B!9EC>B+.E4;xRsB2xA>_EFdAZe8
S?>ky$U&@J>[jPpwQ[F(K9X|K>XpN!k1=PFk<>Fp)k6mQUPln%TgSp-r(@Qe=cQHqBOA]Vi]xg!vSdqS_Q.oTc'ga59ZG494vXwQ
a>gqp4]!j4x,|Z;TC+7mEJPJfHI,@]6iqow%)S9p>tR@FEKOhX$z?El)>>-y1p-m*=/bNAJ_5OeQ6:fl&|zWImK2Q<nw1WWqC|qL
3_nifj]DC1*b:@*w8Y>bBcQ[$r5pXp!|WN!^ILDapU=O~+[~B0V6W9XCBW:k&/9c1=Ik+xD;~oryU.fvM%1L08-GsFo);4M9;0H~
Le|hBHtBbh)CEeN%)2Pz$ZoS_:2w8Hw45WU-=$m[G)$7LIig^DWU,Bs!WD:i<yKGw$>Q|dvSE(O0)i2?k/dzx_zz)?^[k=*eDgOE
fD[[Js^2s$?*NeVI2ka@a;GT[;fDCG&CcBp0C's*SW_eJA28XzgoN=JJGsFl;MSAV$ED5X/;nMlf,17VM6yjlrd*1=;9aQOXQj%$
=V[],%^n2>KS*&X]*fcXxEI;%S'z?kP.UQIX_:(7iq]0Tj2)&eQ[$m/?~aOWgRbeSa&V_oQ!q%=xL&?zV$%ATy-!Udb,I+r'FuV3
yA47Q/+)z>L2mm[Q.mn^Vb2/DB9ZS:jPfpr+52y3^1)MFK)YIjbA6tITc=lpR?q.;)W>lbh4^9ud~phpf+9O9h$=w+Xe$K?xmAIV
<,)DHwa9A6j<@D*-KiXXll7vV4,=vJ[$uZ!w_BUSNbC1x&+KB9'Kc8OKhxImZR$5lqV]E!)3]h*v9|:Vwd4>gD2*~8K!L!ovnsn'
X^'?Rj<aHJwM_PoJM|,6u]%vt%WxWD<e<3E]e6SvD,9E|rht$;pJfsg96vPf0v60r<RA7/$I-Zp(st%=Ls+Z9kuFuRlLb1|,7ue.
sM+L3H~pzHW+lnZD3XEF8_KSz;5KQ_MU72_7'oaTuPlGOrfdP&iLo+:nug1dK0K7/1;lw!joW3,PhV@$D^dlRhHVBJ<jb]zeRVam
L&qMz=skoafjB91N|]J.n.&&ST)kKI4m=k_555v[),1zwouSs?Ac:DLA9789x^DQiajx4w8rMvtsGNdp1M.[-9hW[->*r&%sKL]<
;_,=oTsMMcCr'!k=JIdf/|<[rTk:L1%]zHaOh[a24EhtF.1mCIt(;hf2N]&(MOwb'6F6$aR|f@N!demZPv<UL&7,TuY4rXpzH=Yn
VN1C-^nyo~-a*O<RBoES]lxULAj42iqbdwQ+MFc!6QmsG3J<on@74*2Sze5xSs9aoqbPiAgqt.tko9fGj7+/s^|W'f>,gNcdHq7;
!99LmkU=s2c&e&]>kf&cSKa7wj://(1%V*(fD;=.;f6$x=BAOTNFh4z7^xK]VpLiPkhmNhP'Ak)=-*c%Y*5R*h24bVmdMY_yql0M
sodUCrUO)E]7+xRp7SR&[.!fD2Xc0Oj?BF&U!*KXo-B]k1q%YfQv8KGj2'>P,6$n*h<-/vut(ARo[HLl6H'l9Dgxq(@;c'H8lZlQ
kpE7;nu^rM3+7-r6C0K)U25krGI=CSx[kCM6c)>&>17a(<MUlpc?d55BFKW-)W+-<>0q;Kt-0l5M-iK>lpVv.Nx%b6.jUX:!(u[c
IB(xEK+2nFB@I5Et*-%%M$NT=H7w+s^MW*PtLtj3>KX)shHex,hf;$!u7nIa-=4t'v5*;D~+][m^v:dt.OvOLvs_uJF?HA=g!ZO$
y/W]AF~T0OVxf3qj<^qz2ggL)JkHI[_9&PG[VVd(!Eil>5Q-bjP[Py<ZlTd|%qY8ql.@lH3gt)X?<&p/-CAe1z7UkxT^Bss+eM@r
jTOV8sKPx$d)lP-6UgS~CdHU6lvp(KU3gf+Vn;Sr7FoI~t7wbhxo'9T?U2MvCj0By92bNo,rlMh.rW!_HCF^$^i9+5,=Cm6n,(%y
ofS0lB;md-/xyB1vb~CgiTB;9*L3K~V<X=|N'q[^yI(V<E%%!;1e~H_ABce;(znJMf!^v-hiHuM8e1Gq-4?g-V@!VG)S%Y20%Wen
;SEViS:w!C@!|oFOmcTe_CLD,MGUo]w%wJ=0'KN-4mq/H5^=(-8kU>h'9LEx8C38v+qrbkk]/It1LPm/wY5'u9&UI*w7;a1ztQ:Z
EKcpE)xEdf!F0>k^Y^6+[8C6HLR1Qe_b(Yi!g$VT,uM4?/B;Fk[b<nW2@|9~A3ym2t37K7SoSz]~h.T4BvAhuvA2Dho=VOI|2)/R
JRt$Y2T6~Kym&t!*4GRLOj(]aDM:Z?GgRRJ2:=i?g4Q-+(A!PD~|j=ybrskvLd~3sm][ypY7z52w/[xuZ7,d1Q?f~PWec%g^xHvx
's'NQtOpRS6|<du3z1:c<TCrX:26$,Ld^&Hz!N,fIKvq9F2!yM;8gF2~BqJ=0--&t,UqCmtT-|VNhB>W9]WOa=]^(!ZagAG/O:%U
fbDZ^%tZv6tj:o)dAvA.lUxz!OT;T|lcC:69WJfT+]V=)s'eQ:=m$r,'L0xm!U9FXTl-xn9O=;Tr+e)Q3[ud7@]Ci(N.8MZee.^L
vxrn(f.)PKlsipwbup-K7.*b%daxXdTOD1R~C@[R5y1nHND6jycwng7~!^5[4rs[%)QMNBt?$OEj<Th*Hh3jRa1~D=jLgp~'i!F*
%vV+bbC9TSC_cgYaZ2$W0$B&ExWIe<=A-lp-|>VRfc[k=;uIv20[Bo4VFEc)OmL1vSbQd?Vl(o8?UaTz3N=FXxRW0s]!-Z9fj1ms
4w8Zq6?2Uzzt%rXcxDq9ZccG;mf$ft:~M.R0FDq(@6NuB*.wcyFxD'*C;U6jU8RMfJWaG8|g;7z>[PIcJZlI)m'yfc:4.G:XR1;=
d)W_LNkLs)xJ['xz@kLQ[a^YQQJu==2lU3oqGG[^k7Z|lk<d'xA+'Yk.WjNV9<?M)FsF]OmKtgkA'@%SzVW.,z2P1&(a:Rq(qp4e
V5ywfb^etk<J~>fFT'TwpyOCwPd3E1>+pmX-==qxFN+cfVUL$~Fk2J2XP&7a=oZiac6rus:Q0]7sIGNb5HZBPlCP>5%H3a^q2o9[
>[U%&AdB>?;5kB5o9[xN2HLa)K&nFA&zwa?VkZ$ORA]33!5ev<-s|_)L*@[0!)T5!7S]YIxT2l[rPtX.=s(B;~9'*tW6X,]X,qYN
W4,pb|x@@hz!e6s.9m,*|^-t_Ym%**G@IL9?q1Y$u!C1G-hdp|/GTZ7Eqf8|=&Q^a%K[9L<=ZQcB<7NP/1NZc7K>K2O4YILHD3-M
H2b=8j6Q@r.hX@7.WrfG7*tV-,k$oM0I)$5_ySsst,1o9XdMmH,/>d,[P^B-,3|Oxj!m0Cj0=pN%!lE7|'dwEK!+qEr+B8jf.-_/
9|D=L+:K;)-2!I=35-Yzf$L*1rqnM!%N~&'Jyxh_]zthF~yt2i[XYuz0j~4syzCIKzMr.-oSZA=<_N'wt2YU(mze=P/gt^ZG*'Rt
M%FXf>/VaRt]t^_Zy-9O!1ef?G9Ea=TU03Gbv:2O~'zgf/bV01/jUz~=,3_'-FA8m:W&@qKYc,Xj6!T]h,9>j'HQL3YUs*?q.-Q2
Q6yN=>T9/?)0[2KqPof]EWAjWlH@U]/8kLEf0W5n'B)agJP|(BAj_[E6YSGoRnRo20|sRi~I)rzX,kWE=2bs]esB|0H.eKa-1dG<
T-+(I/t$W(.=/9dU1mx)PV]DP?Ge=5lAH;6zBU^gx|](?>smIAw2?biuRGo9h%L_=<vf4)1~R6Y7No%)R3D|HR!|ZhZNA(2b9Zxq
Iw1yj5mD$O3W/%?9v)El9_H9MzG9Y+eQ5'qPLBuG&t7'$<@qY/EE+_4|F-PXzWoTQfrWE7qnTcwK|FM$b_52_5:sfM%^wc~C'TD/
Zs_O'-DH!ui;RhVdAoLvuur<m;VQ^Ql?lMAI_5I;gKO2NyTT'Gr+9Dn5a~B~>9B3b1UWQ.zg(zFDlVKaYQ3Ix3aI$@=iN=o9QQTc
'3Xo,'3951WYWEMIIUlQV.>^xUxTG4/Q&>[jis=!>2%qb8|%1@>&5'fW_u;CoG9j+(EKo>!OT-2ShWZoJXOMo>~u4/>,CRe7$r2z
6l*hllap*uiCz:+/M9&P|w:lbMj_GYQs)K,%flY&UJVRi@05gOnsW?k-<Q]T-@3Fdhn(C3lI[cRe7TsJy(C(R+(J~=etsMl2rF;F
?|T2(PAWy?%j[_U~0CRJ=~;QPAH<pKtlsr|=A_b!6Ca,^QIas%OeAEAX]NsaK,[j.&NLieX>A8Ma.vq$D)1Z2hYuxH0?_%1GgFxx
~84vv9lEGi[*Ttp(&mn;BO-l[:,>I-]eYIG^W|/.SGt(>f6FS/ScT7a7op63:_N=I.c9,6~;PFHf]oU7s?N^QoU($G?aVTQ]/[zh
I$=uo!1Z**h6pJ>'TYT<>CXpqwRy;9'e[%Sqw<@=%5J$-s2gd9hOaI$^,jk]*SMfBeFi@j|@PtFEcc:K_Ka(;MGF1*=R]x2?oeMG
;~DIH0k->8:K,x7FTl6kAc+tNA[6^lY_CC9'a+a9!>*&E<1%lNt=BaJ[Cps(|h2PUH~]BMU/>C3xUsza;LPInr_[>s'$(,|zdCwi
Gr[CQ9vHV3x+MKXgL$&[2y+m>]+R4'4AGhq(y:[,zD0I.2X!1X93<Ui,-+3=j1aCXe|;4cU!4c9jmR,Cd6:@/Vc/zyW<J375&XJ4
(u>t!nt8tmYf3TH.ZRh~j&xTdmwF5R4U9<Ix8UPOvrsl8d=ULz=edF|xnE6)bFCY]a9|@QQ;BZ?d/yAMg:^*K_:b7imvAowOY$4c
-VN@XDZtV]bj+Q@+aZcZl*7^0Y(eDm9P-XM<9oB(VzpL@,GoV917!sQT>1Mfej<v<o(V+,QXV@H2s4gqD0:x0KygZCsWH(vie>c:
95%@Gre(-sTZ~ivqioos7Y;&LG'wbG(DZpkirW,P2Yqg!18^$j?gnidd%D9SE]VOcnO(]07CY!R*-6[GsBrVM%uhz*_97cT+Sl](
r_olDha;IF<vEzmuylfvry-5DW_Oe!8W.Ls)MX0_Mh)(<zb/El!RM]EPM8^dN7tLSsq9[NNICe'MeMWnqegfhlG,:%)qKb1$Nw~X
K1'i$Y3[$VIDAdM'n,z&1X>cHM4bg'zKnu_f,1:6RZuD!3bC-fUTnV3.3VES)g5KNP5&K+hcZBdajmm4)J11WOeME|bJ_X<W@b4[
:p9G0un4Qf5k0Qe+)-1xZK!G8LZXlta[$-]Cia[A<JM'-7f=:g6fYFxWo4jA0hIk7z3<:aE>[*5n_:D.xE:NNzRk=-HXwHtf(0H:
W!DWB&.s8J;*xbQ!.%sNLx>;c,ZTvE&f[%grp9WOn.YOY,y,[&Sp*:3.e>'co!2RCXV/S5VPSqq:dl-yL:q6EL9^aY=fKKWh;5E+
k/1mZA//>tdh$~-.16H4.haH*4:n)2K]0Cj<0C!ncme8r$R!KbUYA^I[%Bj$k^~.wGgpLAo%9e]VQ-eagABi%Rq^;T@;StOnFcsa
9q5BaO5U.5H)q-='WfA0:'p4PQN(>AxZ5XjWs3-c:l)]Ek|xs|k-tMIRnkMB?uhQ[?3sORR*Pd75ybkd_(GhYV@g+IzC/.F]'Ui'
P5njW5Nn>!urVp|<p$jckG-oledDzg>gs;NyRhGsS=den&vzNEK:;70$fwsh1bOcDvEOH%yWam?C8w3])iCDfX=YJwz)%+b-a?_;
Kr)fecTP7xpY_ZB'KWbdtRb=bV+WP]$s~*uk:|s4=^[TmXHl,gj=;>r|*zxC.1)p=kL)/,o5yaB4gR*@pvE8i^JhNeXx>ol:%~n_
Tb*Q9CMvA(q;LCZ^!?rc+vIk-9<O!Ar0ynq(h$j>y/^T;'eaEJQlIipSO%=(70273_~zW_gN&RycFd(;d42O>X5&~$(ZQf;h!!|D
bUq?n(PGpr)*eIW^8;f<*B(fa!i+]k47Vz$0CZ?'oI|R)z4YVgP<A=5(K)=@/'K_,VLj-^lPUC?sqY/[X&u[*~+6QxZb;]0[;I)c
p%rc)%VB4v+-:kBk[0+I&y[wyW6(fNg2bnO(7LE3in%tXlSLp*<:@j6*B$X3?0or%t16=CIl99Gj%'YU)>R2V8.u@'yF1-Xb>H6j
a/e47LJ':.P+XQh9A(2sQf^Dvy<B?%X-49,4HI9~O0.W'[L%Ngldu)V[d1'9;sgkwvy<JGo^>']h$UK.mCw@BiQNNkQJIMf>b!_z
T@=LAmG/xT&EA%@>_9FmAfPTRURY?!9Hd'3iAPf+,OslGYtXW!L0Z;FX$)AK9F>]WX9b>*@%_PMH)=lVxjZ>'GsttLhT%R_cQ_'H
MXR+>_2_ATPKMl+&^!q*(<>lnqr[,vuOVMW9hmXm4'0=>gb9%4(o6aAtZ2Q?P0|9T%*u[tV+&J_u6[PD+:(1*$?g2z@b0M&C5Y<_
:zd>1J.F(N<ocQ!'l'b>Rq5C)NV4($ABq[u@nGZZYOJWL5v[|Sy_Bq9>,d(J;!/]1oRncyEr-[K++Y61/%M)/CkaS;@8gp0bHmZ2
9'mOSW,XJCjnF+PlL1z5J![AFq>;R$H>>a1C5;?Z;NxWEQ1(-82Ihe_oV]u&Pp?ySBwfW^1%$0nHm*J]^2SASp>V,z,'m1Vqeq@M
:/w3~uNVgS~ZLA>%6@.>M;C>lQhQBiD5n)e-r=A'ODDxee'q2Q$Nvxc]-.3x7MHMmU2Y.yeM^^IR8;<V!p65,vT%s]5wWww3DA|)
BN9yTP^l/+(kl~K!rNl%pEcD6zx4H~~/?(6ar0X=CrL56)=;]xYirPic]-X2)Eal^(p!)n&vIEg/g4B4'$Tsc02^gBrf$^qEV-lZ
gOVAfSF/?=L$*Krm+:H.$l|-Gu-@~32I)Jc_k)4uBSv4s7qch>lguBv/&dBo-MrsOXhy';0?=r6ZTc](s0^BgNGQzI6=T,)'uRXd
)Bt('.M|*Hri~MKx;h2MrK'gnW6u>d<o~ppHwKD>igATY&bqPd$w>8^=,wxoABS%_MCJ5rZI|Q5gx~6^iIci[q1.(W5b4MrsmeHb
y%v0UI|7[)bQv96[I8:kV->G)K&Xr~ego=5P[Im!;rj=6?7p&HR%aaA*41OMfZT?pftss'NB(*,jZ7!srLOJR3MlsYNaSH[;UboM
8ji'%hXAB(WY:Vp'XZJOs3vI7I0JemL;&0Aw5/1ic/tU.$~O?,bv8Q=@)yD[@qTO&r1S9q-V38):g^tQT4%isW.]>8WQPu>[?~8E
so6![Gmv];H%IZSqJXq3Qka5Z=uLOz<FXZ_qHC|7Z*$|qn3|M;q81:fH:J^IQ)RwT_):tJ^IFe@5u&@Md*U>I.LR/j1B<Go/&sY8
En._wv)Esc~),7jT<yJd~.'?I$Xt.FqF8;Y-N]Z9~Ef4e9k&Zs,xE7Vr[CNSbt64kN77A%aJq@u$=m'Om$vxiivsAXfN*rsP-])d
pcC~A:o=oTp!+jqJ),0?CIzs3rav?|mYM.|iR)IDnXeTuKi?'2GBFQDAihyJ$sK(42l,ii3ilZ~:P7uztI/Fgk(+O6hK+r]Cm]os
Vwcw|Jbrh]/avhJE|d1vzb<Ul4ZR~cuYLBS/_L.5avvG4GQqLIz7vo=J.NSf+6&Ii>c=NLp&9&6M]fbbR+je.[PU]d%.$n_<3mHZ
D/n;)T,iny07o@+v;-x,jM?x;?Lpk@Vo,E&vE_wg7mH,qub'Fz)Z1*?LsnwG[VoY&IQ1n)oQ[1p9Az>|a+/pKh]|Z;S@.S4StKZx
hBg<>zAyW=:z8R|Y2q9hQ+]uGk?|vC6zKwZMKh[;xr436cFK1plBk5sp6es-jkppA1eN5C'xS=-ccxrf7pfobY]J3,)vTM,v:1n;
eNFT07K<mA!._ptV(~%?f!;$qHOcYkzJ1tR>qbg~08M@-^|(:)k>z'>j-]4%PqC^Cp&?|xhkYVgB*(5,++,m%2$(:2EvxfjZMS1D
_IhhpTjYP!MV^+&gQ6JIG'1b(l%L++zea0]%2BO90mmWIJIue@+*n,Ap7v6*FLIZ7h6[JP(nN3.&wbQ3JD<HS@f:n7@.+PxN8S58
Z-Jek9gI|LnvnN[z[ivwIkYXPiB^Qg-,<cYAz423+a9Q3]VvzgfNPW.h|pU_T0s7D*X?=2jx8q2gh)Wh1>=H/-Vaeo!8:c]w_k2$
g0mE5Rj5>A)-ED=bDdELVOiygkh]p4LCE8E3E(9/sU5jNe~anTVWXgh4D6EfAR8XG|<*Ys3LNCF,ny^LE1.-.Bk/hKecP~%+=o/P
y[J>$~2Y10GB$rk4^5bJ9QoyCDg8wOph7,ZeCiseA*ByWE5sAnR?7zu;m%1lr:qq4D[pUS*~80&BN5w9s3&t:AScVqF4GPu&q_tL
gZ;6.*fY8|vdL,ui]GmE0Sgm/YXb=U-Or1f,h_ynZ;c;>b:!9LFd*b59D_5~EWlS|Yj(2(.c$CPLag[mIvPKoJF51X&SCWIzx4yW
t+|V,bvsafIT5ntRi>%1FE|Dec0b*Oddc,7JE*~EITnVef_T.~/D^E9JA;H4T,eWPeQvEk'cAWgZsF<6h&lD2v:|$-m_7RXK.!TZ
EiHIw?Vu/DLg.uzcd|c2x$?m$M9^:6p*POusL1m,X<(O&l,j.DE11!rY5!dd^TO)5<|2*|76d)|5kQ/UNr^PL.SF,yziOhOd/+ID
^t3szJKey~qMDS^xp7QZDd<N:MTDs~C,1t;XjEXzJ7p$3>OuJP)Pn=rfBzlPjVTG6gNu.%-:,uV&jb4&xoe2z*ef-c.!bxVJlW+i
8zxTlI[G3~9<^0<zGEy8]=.O_W+5QYzt]nGYSSCWn]Tgv6j:d8izYM@2;%sCKz;Ma|uJ269jzNzRWqo>4TffyoNhD]QJl;=15h7<
AP~Yz,QNi+/&s3m.!jEEgKgfZXa]:$wWVP!+I%*CW*4p<8Z!C$uj4qN4W[NULo&Y)(V4_A(rsD)zc@p,X%K|]AM6p!)@1zdbU^6J
L]eKL8MoXR763lbju$-b>m:nXvra5@+i'gRk6c;oL:q/lHQ[,wdXzEg=fdiehB1w?_a|<HDgLDm<3W6D7*(lS]jS.;r|@K_J|SIr
ePK$b,N%Y*9rgx0d4T(r@gIz$t~G,Xz2nul]2kU3T_p.,4ht]>evXS[listSsP~7IAK6&K8AT0:;mJDy6xpx/LU8)>DckiR_QVx(
Nm2JgJ~Kk@::J-6FS|ra;,2n3UQMu$@<VNq>YL,16Z+x*</^*cj@[LrogRdMC>_NNGmc/C3qx@5|vI)(_DLY'*_&zORnkT;3EtJ)
m*[-CkE|Er:)'Yi1wb]QZzt9k/8&'uT_T7Pji|y?HU'_?Zu!0]P(a:u&TjN)'];i*n:WLHlS=!;*i]*<=|o_Z5]g,JNh_4w'rzI6
iPJJQt)s>,,XO,x3Zwfu$DEMyv$8*$jpAK~@+Lbc&Op8J]G|RHs@K&6-IB;&2Okb~mP(>/g)mu]VZ,:?6&]Je]XsAc=)BlYu,sTr
='.)*<mo^.'^BRwgg&Q6Q%F8Lyb6uH52^.7(Kvy.Y6^K7t=Lvfpjta$3(cLoN'xs1t$!9fJy&ql_bCDz|mZ,V%4b$5oj42.oK.(o
sBE@XN|8,S2S)[Xwy'S>hgwed~tWmp*[m!g;xxX.o6<87,+5*|oGlaERuab7VH5&@a$MILxsTc_sRUN)X66V-NqjI:9A$x8l-zWM
p~5(9ZeTq.&;-Lr50$Q,jxPHb!.$pF@Z4&q))dM,p)Oy6?&^P1.$Kj~iV:6ENh(sh[VSz;0EZ6_JFSMznrd9IygnHCm,<^8aupS,
.w:iAtP9jq[*eSk:8aXz,@pMU~&Txkbh-p&U(37q~CGi4TpOJ]nQwn:vGZq?!SGeOO93(';DivAF)y%G,SjO+B)<ldpM[MQkFrB@
&G%n*c~SUyh[JAj/Df=i*kEH;$Bi'qoh+(e42fh%P-2|qYJSbk)<(0uq=21e;zJ9caCh2V18-AfAvU2/1jjG191T!c-6|3aO%u3g
IDo250tE_~wPZJujp!fD/VLAH<y->Hn>iYz/DoI?lOV$b,E:t)q!E>p^TRsCrrf]$h1E'j5Q%LxlMPIgm:7=5D3|30/'~98Te!c$
B_[c;*pAdA^%]$mB@*)RyS9Cqgdp'i.qFE9Hc_O2pxJNP.59/F:))0:]%jBG!Nxxu'lfuS/%<n~g&]W&5c0$j8oaJ?:@U|[K:p8l
PY(XGq>p/m6>[;=H=zQ.JwN_.bPgKdzo_[Gxb-1U;:=2*FNjpL]zz@.|M(2=y(Y[^<ZjNJ(@g37FHI@v[2Qh)i,HPEYhqlako!-x
R-73HST9AIKl^VXL,/h77LP7^g&nh~7|m,k)e?mfsk;jN4n7ERC;D?0+X3PZEM(|=H.T6;:cO>^E.g[~5H,ZUu)d[[%HiU|<fzG<
7C_k<0sfgSbJfnuTSG+>;0[<+~5<Sq>K>X]4:800tW?R;:beJB/fSo4WzQ~MXT,2vgHxeJ:AkM=11ux5<)P,>%LK4MT1jHX;fz7K
4,Y4PIUT%u]a+pk5!25XB.,3,8r)RCU!VJ@@;5$ckP&B;8W4&F&A8]4HN5-OYuVp>7gVu&oY=cI'~%lcNtbB.+KOXP8R4*YRe5m4
6R.Q/8wdjY243S[WydGqgOA@:_A3WY~Fsi.3t::$Z!BN![0sFwhp'a*iPE$1wYr@|NKTRC;.i/7*2M_hhzFn+ylch3OJS<4j]*T!
qr:^wpRCF-@v.<)xsDB:m9p/.URyk?lV%GLDdP3+fd43-*2.Ne^*916WzjdyiZ7$_z:EDUQCi@ytkhsUXpx,6em6w@ZrasBb:7vb
=W-^bw][U>Z:JfOhoCpr~~mei<,3,6W;?t1i)ZNH)RfJ3D2k9DTC!AK^S(r:iPl&H-H/vHo5|9~W)QPLD0a~vEirI_b;)wfijPt.
d$9G4ci8AEm~a<^W1[WhF4ppF&+Lu@Xb'?'0+jA^?o8C7P9:v~Z&Vi73v|n:&dkuZ3SS[3Q'Y%?>RmydGwU<&)fwD2v3MG|'q)Td
O%!C_xkm|ItP8(E28g=Md/S6JV89.Kq9/]E*Hn]w3Xr|J8(MsY?HR2&hx:(GMT&k1Y>OAb0eW6Ke3feG+eA$]0kIaehy6ugy|LT0
U1|q?YH~^0c(8z;w>IHjvKhTR)P|HAga|IdHsS<vJ&1A<UaTDO>%4o'~4:~ol1ZjuGEej1]O'BE8aHdkY*hWpL4Yg$mVC)k.5s19
K<1XR(GrqRG3iGhvr.Q,V~GY2-Ay+x;YCZ'ZOL|1|dDm~vc_z|B&'cU[M%Q@pD,-_!!(FryBdx,n[A%CX=R@&HyhQLklW0Q~~Ux;
K&Gzi9x&cmy$'?TGBMo9Wa*?DzRZC8i,8M_%j7j.kk:J4cE$tRNRwN*W<)j8u3=i.;B$N8sDI~pLo(OGw:70x~9cK:q7j,sCYRY&
Ie%>VIbFh5ii?NT,O7BH6F3%7z2AA?Bv18O.tHj5X+ERu6<(UowOj.$;n!ZB]j;-6q=a%jAH%~wtZDVVENOOL/]T9^g-'&hoS%x8
iX:_n9L_FWnL-yrx-MwAbp!QT,Ci/=jUA378L5J7ID'4;:oiB]|WCVw4GbwA1k.E?x)?*QN5Q&[yV.[ETwoeI^dx&etz'nWB'_P&
GjFc8WSI-qA-LUvU^sysWGg=7Jvf5LG$q7V,R/k/Kh[IHYQ-7%uE5U-j%':=B2a4=~Jot]OgH.S33guUQO,hT_+cdknA8qaHb/Mh
o!FyT,Oi?tCRleT>JQ+tIqir]9s_g?VF8DcjxLGOWu,zA0Ah'w8~RgIy5HZ2Mw*xIU?E8$5WuKQ&8:R4F1hSEcmqs'[j1Y;m=sO1
ZteGo%A@%ubmepP<GgFt3B&O97>u?2G=:Q)c0(ax?O-|dji9_Te6LJgC.3Jm|1]LdQqaI,NVZP%u/m_0[v%<,7jYJD*=H[Vx+PhL
G8bX^7X,&3^8q.;O@VSM4u*AVaaXAatIZ4Wqea,2Zp~@V,xRJ'Pj?qIQZ;Te8fHa2Sqr*Sj'Uc.3GvIeDh+OEOP]B5@/WGX6U%?;
77kJ7HE@P.@jc*!X7<V,qx4)TEzf=$FnUh]u]8%6MB|dbYH2/6;,|?jwo|1TtMkRvqttTP~Ql~]yE.n>i|LB?fKP/RMGzHJ/!L/n
6k)w^gYn$)F0].$K(QayA.QmVQNTh7W)G?L~kq|/C>[K_EIGt/l~gKaCd<OAp]:0lRqOU2G;.XVEu<~v,A(2m%mQ4j]=^lWJ1cPb
LqHpsOK9fcNqlutDtx_ZY^u[^M)@p<gtk,Cf/()Gw8RDOuRu(>*=8/Jt[S*$jAqGt&^SMA;j^E6?|ldm)[w]6~i;5Z)<^t(Bm6$N
kL|8mT1sW1nTQD~~gIm';exk~v|xmHw+FDECf?yy'>xT=paXF3_W5!IizlHda&7=<;~uwR6bk&?/*Vw]*ozJJEw3XYnf'B&,O<-|
Y2r,q82C1!Lm5l@A]N8yoB<1BU3Cb7UHFFgF5A2,hP$X?Oz<M>=0K;BC%tN6ZevJ[.T*YXTkj)~;mYEx/T~1OoP0>Fs;;(x|z*4r
'%'3,Q.skzUwum^,Lk:Zr61Tn>~1Ma(=O1K0M/I%rFdo[ssMYRG[6kEYr&|9V)CXxc_eV67tOB]W5x6u+A6dvq7s'M5Wyc&GG<4>
z$3'VwYGWzN?~LhJ&Z*Y*i.~;hM(|OW(6S@ff;I;C:gWqYvODn5m7yk30Y)[Lv^@CLp5V7;[w?PVX(/0sMiw'aS--Ocn;]>Zw(i^
IJtU8SV[MvBXJ8.iIreDwJ:[ER4(>5JsLQ61/<OrUDb+Ro+,0!i;IK@*u+d[nXbW;&'Xx-W+.-$2A7%W)AMZpD-_mlyi;/Jk|+Yn
zn$>R1H)X4/+'O-z:H'b[7;a.b!B9d'6U7%>FHSE/[-[SMSxq,-Gr3j/Y>.M]eFPZQ)5!(~p|j'v;que1F~mMRUoCzoER]z9//?7
U]>y,Ndc5T+:Ga[^]R39v|XSQDIE06&A7XwW:4Rl>t9vn9%;9C~|'TK%4wAy]F1mwDPAX1Eh9ot0XP'Y2[a-!(1E|Ku~2|3,p5Y8
1VqK/&K=4L<]F,S2/UoCOAVJc6+MUm:th7_,vzpDltgJY>=h>2!HaB%YHDMB0gX,k_c^s-)hmzfwrk/L.KsK?Ae'$;g1]A&-Eas?
&z/^&|KiophFIs|3ciG/UMk,*&E'|%y0HT|kc3Z2B)!^M;YQ95SAQK0UKY>Y3Jo$d4s;RY_4U)R_^+(GTNVybC$*JV&Xh;[@zU^'
3gH0Ftr?T/B|0@x++kGWbC6>bt+I2D;kd[mxpnO,D-(aU=qgovy8%jP(qN/b$kdg]6H=!?s&9QzbP$/b&PUlaO(@eKU=&bdstmmc
kmFXM~?iv*8|~X>y(rz4;wY@ET%;G7(7vZEN?!L~buI7V)5ZS5!g+s>g[g<?u*7ab~e>1(K'7>?XJHbT@jzWhdH8FfG'b]<bY+S@
D%(<gf~9;yYYb65/jIqq4BEfhTKQiQ1bD$d_v&uRXZ~?veJa>m!N$|H~nZJ'2jo8ZykQ7yGL|=WGto[k*Q4c4x(lh$ppW?t:;+8N
gV[O?%Xa9D&[gpT*t_;bp4JvhmSk-C0P2,uo68!9V~u2vb4wlls;N^9o~mPppu^31Pe@x'<1(>t?GUwain*Qtjx2d-s15?EtyXZR
Bk77($Ea!.[9Dsa_yW6.:/x@4jk[3-]u83Kio;y/E^eBkxV[U:5OfJV8gN,ydGV_<(z8G9CZ4dl+Wbq1GioiISG3nN1KvVj210/a
;Oko6SPY(xEWwRD0/jFKck[[hye]vzc~+%H4@|WS4EjY2iHdIm>rA5gD:6F-ZZV3afg%b|IH'O4q35<'OJ79NJQg(+(~N*rQ8?HM
F99zN]-?KE]/7S>;~wpaoB]^1N+cD[NStDy]bx9~Lq&YJdFY,Jh!jA|;V*L7mS%2P~dvxN.X7O7+j]N_B$~7gV:xN@f7y1RY,Qa'
ZA|P%(^0$MP!|qj/jqZs51Q3z-:Qw7+YQA_fsEnMHu9IvEUPh2zprIbzpWbVsDR7.egHzb95Y%cY98/Fj*.$Z?kvsDo:aw,+*adz
2m_)7WP]z_DGrk@cS2+s7Hr^vI*fSrLgZ]1AIUS)6Y=V]wf[!3h)Tb?&Ksi'_-_IH0-~bva?!iKr9~K?o/=lKih*[L4++;K:R+Rt
,|ho2e,3G3wkZf%TO[;;8%^NQ:z/7NRI*S,$p~x-rJwPxN08_/ZM>MVlk^>'jJr*eUJ-N6PJ021wdJ-w[t/EQ><Zh@kR4V@[V|Rv
p,M*Q)+4a:4,wdc~HL_H9yB<R5R61jA?rmr%-0Ifz8)?pIQ=d<.+dew>c;B9[V208AK5~Hqs>Vsia!HiETl]|:KiQ9-j!Vtcp[)x
Zq%T.wM_h0nBbZ-c:im:~oIA/z:n^28,WVg$;E7saN6q+CCZI^5:9mOlvvi1Iusow6lx:I40Z!-/ZkVa+nW-I~doRe!5:H|m1>r-
NfaQ_+z=iIvj.:+,f3.(8oPotRjI1/4o8jROU3fZtG[pXWA4VJa-SrHJ+[]qh3h+d(xle>lO_M@UBr:[v0!1<1WtC?6c+*^b@;'p
w^C$x%VMp+anaY<vU7(hYgJEez_4)l0dW5mA*Z.CDq$EUGNrnCL~Gjc1XvuP)FrL(tANM>T!lUe):;S^1'ifUj=r|&S|d%400C2=
1kU.B0wpp_&tD3m,rauwV7n.yt@ofkn/TQ=<*TfUp/oB9<oY0=GGcV2T>H)@('z&nC2^(r[vlu4t?vp&wZd9zF~)yJw$aN&'j23!
r!w)/?A]fvJ@Ua>omV9.fqwAre96Bdu_i8icSNM-9D[e4;Xe/!N8s)k960o7$AgXJ^W:zJx;n_UO2Ulv@R39$Nn!1n0)@oi4U^v)
4GomMwW~5|SS~1F2iRtewW1Q[%|-fUBv]MIuZ[^:X+W!~dBg1p<Vl8UvQW.J9u$X>s8KeTVQ2$H7Kaj8!SL=z1<0Ono6d:8Dua$C
-Vg6>Z.ZpSJ~BSExY!8x]0u1Ei':3K1vt~rT3Df%Bs5s$1^'&?fZ(vXlFnbV@ISpDd^YGn@1|<c7Z&jv^[hPVg&aqScwqzlad=.P
Qg_~|rekXCpm7tak0b4f;a-2y8m|+t|8f)=E~e>4zw)&%o^7MpM$Qn?:8g|r^eSYf2|~Nbo.>/Y3zZ[j_Zh2@G7GBxrP%Tj?;Ws'
h(]_kHB~~IO$p5F1Z3o!!)xCW>X.zjqfBgI%TVw'>VnRL@RFU|EodL|&)yTCX_1J~Ssi,vODR+)H<Y+b7TzgQ<hBMNZEJ@in;avu
ltjFXG;9Y-U0fEV:O+3oF41T@G04*4^PoqxG(R&k)V/aQy[wZ1ngQ?-Vd$:U0~t;f7K>+0nHzi+Z/+Vi/FKem7WnME'&4>/qDK'd
1e/H]l2:[I3YX0M'TzG(%]ZLd,T'!]KlHEr^d38*Ja@jk2=[U+|FZQNDYvZ[Y5Puk>vE6RPwO..ahLmeO[1kRQpz@C^w&JZM:n?n
nf_7EUfpyb(r/SaBYN=gxd!kMeTW+!);b?V6M8QBAtbrB4E^/)Q*F-gf2vjABj@JV:ka|sQfyB;,Q%7rfe6(i!lFVO0fE46&wnPe
00Lt>kZ?vI^<X0Yoq>VQ06e+oQ]p@oU.F=;q@ziZ@lraX%sGJZHmA4l|Ps8&=J>~Pa.Pv+?gK;Jf~wR2)k2~_=vv0m,XHa]Y+f3P
8[zGRgAg%'*ga$A.KQ^+9,E1,lFqP@8Xy9r7mp(tudcWVlpU8]+^girkk2-oH[31dY6)F)Q5Ikp!dAFXsU8uB+_2C<zHxRD$q^s.
T^GjP+_gVI83mSh~cO%o-0Y~V-K9Crpbw:!LzHbec3izR!1,@;cwyUDueN>3fIdFpx:LAZG9!3iQ!)ea<'D=)@^]P0%~A*Dp5cmB
Kbh2'M2xu[i?Pnav'8*Uni/|4]D+l,@(R+W=/SV?7>W%SUJI/4mcn6y%M_SgF0v4[X.LsL-!X57KoG[O@:<nTbjJ:7CDX:I*3u%e
Y0Tg^v(PilB2Y:8'aX3:+u4u%/J0pM.R.r's;_!'K]Znm|/CTqZ6C*RK8_XuZrCaXCk<1A|7uEbDMYOde[=Y|N2>r]z'P1riT5B(
Y?_1cU[L%aDT!1jsyYWsU^8Ll)R2M8~vS:'*$?4-1Fmo=cfAJKNmXLa9l&'4.?ia00m/FYML!9qS~hP|E<;wh!pi_&KFdBR2nQrX
,59,a?5P,SpPv~q([G@LL;sLuW3av^jJhJ7[YWl=geik<H4Ki(%r;q.]tXdvnd;kAEn3zqC7s'o76KrwMFdpN>4R:z4ui;tP%LCK
cQfTME&[Vi>]y@@V8R*~|G@l_fC/ok~/GlLv_ao<mud86L8X,[yw:pb/'Wi]5-z7QQLm^vT-Cq|b(s%tA[Gn8$9*Fycb0Wh8jM8u
e5V%ls]!;@Wwy!]c.p's>H@%3UaHB>2GB>SqX0*v_aB_&5eqiP+zD%0YV70@oH_P5Pn--v|.n]i/oUz+*spI+/_m=qr6<:tkYNGc
WK|<6kr^hBcn1@']Fxq)Am(X&?=&dQR=F|M&oxno0Z5jxB&!?P5^r_|9eQ.V)9S>4n5C8Xf'jp'3O!^)Z[&fP!*+zrZ[0!7Ztv|)
=5n]9M)vVBLw]]&YF_vU1>/sY9Czc.3tVZvhSc^U-HvGG][qZ|KlABE]wsy<Ca|W[?_Y+D]S-l^f2[e2*0uwZ+nWat$~&o':>T4$
W>5MIck2:DkxM;8%/a:NO+,lJ,@rN6[C:e'<KdL|f3AL?PgV@[b([VyKU,?>jC$h126EbqY2eem]A?EB*64y9N*Ei[yAmi3CX'~b
<vYEqS4ZCQ9??H,YzYUk_m(Ny;Sy-4y%Xf8@LhOwizXy;wnx7q&m:vcug>[Og)27b!tt.PGl73NX%GGIWpEHp7Qd/o7>@tf)=a(2
;gpo.i8P[KIy1d2fUdt%0FV~vbyXsyWQMyUT7jYLGS-2~sz(ls-V,3FR0>x,+CO%a24AqCG=Gjy]mv<W?1B@0OHk0|nE?K;El67n
KKp%]2&(+bg&:uYN/4>L3YV.veo*$e!736]WlUn?SNBR<Q/I:y>;5N)_Iq(8=GAFDRi06qO!Vb'zIY=n>Zy<H.uTH&Q&!&L%/|J/
.fm:]TkwXXhE.V]Y9y8TZcSy/L,9(eZ[o<hdWp-B&UwYV[C(ox7U$oTy14t~Jj1>;dxyEuR6Qw4P1dUv_&!nBE25zWv2!5<i~](;
$odQ+E5qlHbawG_CaL7><qLFGkKI-E31/b0HctBbJL^'JW96.C<=BO-on5vWaD>e;7>=8=]>DR>9JtPV!R(EoUROJD@dzF7MY~N(
QFBTDFj?!+P?bYOs<V6PUI@3qTLm,jtET?)Nys^eB$6xz|T7:qFK!SAS'B=.SL/YV&*!uJ'06<i|~KI-TXkntdwA/*N5j|TNv!nA
UIFBs]nCHKxy7@?(;4a9iy]+,wEr;by65sl]|w/^rc^QHXdK^e>VY)'tY8YC|K.I=N3mapwMM/pR,j*mhxyKrn?$:3[_:M@x_Lc9
L~aTTDbD,qD)ka[|7%NGyA(0Vcfy3N%0J'XrwE8EMl(!g-*'uhkUE-FQqVCIz4)T5f8wcz!IFZ549mhPew=)rEhh@9zgGvoD_Oko
Pv=jW^[|y$82*&oL4JJF3m753wEI^eyn.4wi^X-XceJ]%96EIy!N@^=@hH3YirH)7)1]mPB7*yHaf>r0y)=TFr09I64YG![=cy^_
yFCaMgKEC8hi]A]LuLF832s-xm<;KiDj@RB0ZtLX'j8nu_M7/CfFL:Jj.^?'F7csSFD/K+|CL,J=JP3nS*w-gnfytg?pY;n_zfnx
4SJ=<6OyDt0brw+MS-1U+~UFRuq<KTR!GWk)Joe(BK()z2!COI:bUX6/mrJ@wkqC!U2[WuGUO79$c^K,Q5-q>Lk6zvFbuokmRw-V
U80BOw*BI7~aa~saX/s!4WM|L@lzP:R5v|jwvO5sz~?i!(DAa=xT73UxBq0:~jqZ,(X)W4e$<8qcv81n;GK]7i/'(2*@P(s8K;BG
+/4Ig>x<rWpb%6U;@UQ+@LsC.Gc]4*d31805G23<t(vngFPc0>R'46d7|js,=W]<MxcvRJ^QtW2pvgI+9]PUBV]aD8(B/Q*wl[,-
u.i/9sMJpOkdo'UAZZSvQI_M;cANkJUDQM]:v!U%$z9iNcJ~J2@a]91wW'g]Cd2_YsF6+~p$;Y8o,6iQ;l8*7D$eyp4&,w9bR&3z
AmxRx$bKSB:s]t^Ef:!|dQ'^?eFZASj>iWw,'Z]Yr<gehQ;g$>-~36c?YWuEV[(H!%L%z21jh0;J'8aq)sEpm1]BS*'r(C-A6*3U
X0)Ts@6=~4i<SyVVdz_Q5vy5By1Im[]ClQ/1~k@&-@/TNwtp_ThcV*vU?CIne@]9.LvPV)x[jnOU|V8pIQAsN[1inY256+,vIe14
|xjln?T9BwACgUdsV>&Kh%Nea^_Tkp1nGcugBNlJ^mIN0gvJyIq$CURWr~aupNDD6eV%vPC$N,H<d.G,l+Jfd|X$??_(F(?-HT9g
/=h!B'Qr:dx6GgKn8*(PZycB1p]ViM+QTW**Vsavp*YxHq(C%/cih:NOX7^Ux6E<o*SiX4N^a^&HN0CYmNLw8y^@;rXy/+:+dga_
wH6UMx:n<]CTS|tjtLAfnYq*bSSA^T;BU/5V$LN[2HC:/oqZPh00$[[%@:ipA)@wSfdo|j_AAY4YCO.Hh1ErT.uK<Yf7XysagJK/
rB5U%pdQ?LN4Gq[t26]wB]TaP7y4zTb,y)+E(d1rIME]$htWpH~Sm2TUPv&=WZM6ZiyxH6DD~W+*Icy):ED$^Q$'egds?09C=!p)
.F!3'u^HVK[eZvKHxn]7uww4w6BnP/GmvD3MDo,WYP5fL<C?xqy%[^yHRehG:>pp;~lD^W_BU29A;IFq~peyyN8wSs0PJNZbh2p*
+YmU|b[9WZr/)8Oc~L='dL'[VaA|^O_*b/<9;zE+dGa.*+PBql8Ysi4uv'n%!du/fpO[;GCwrpjWQsiQ<+Hmxy$Cn$&n/($Pf.T]
&H:~v@5bRkZRx~P+[!cZU)cS>70=KNI;E[]6!k_'HYgk@!^j7-b9=UW]W9HqEsQ@,:lr3*h*n16+BGJPR~cIAHDZ-;]q>4Ae9D'm
)JzXQ^$m57_;9CT_H/p4u;oPHXx)R&_:1)!@-nTeJqh:B$J]Y.TP!ZtpF-e/O~)T/:oLjrr3fa8]o]%;I)*LIcQJ0nk6;O;?ET/a
?$/REOOTOc&(4_dcUe$0T%AOy9De3!WWZicEXs&HfKO|-qJn1'oiBV*o9$F&&hlKzI0TZhTD)QgxAv<L+'P!(i.|)__wZgFB4BCW
;TzP,0&e3^DU,+NM[vl8fR~7%Nuy?Hb2)cFGsSU,u2dBA$(I<gnA^;[>*T_RFmLbK1,PnS[:r18D$RK<so'pX]9TNGDkM0dhwLK%
|ln/Ai-W8*=K=h6SbqJF4g,QjW3o6-OIfT6Y8Z'C-XCu':6E!rlel:4?5cCVnK.AA<[K*Q7ZxBg"

end RobotKit.Text
